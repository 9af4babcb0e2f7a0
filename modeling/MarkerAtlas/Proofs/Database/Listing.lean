import MarkerAtlas.Proofs.Database.Pattern
import MarkerAtlas.Proofs.Database.Permuted
import MarkerAtlas.Proofs.Database.Writes
import MarkerAtlas.Proofs.Text.ByteOrder

/-!
# What a listing shows

A listing shows each stored marker that its filter wants once, with the done flag of the filter's
owner and everything else as it is stored, in the order of the bytes of map, region, name and id.
No two markers agree in all four, so that the order in which they were imported leaves no trace.
-/

namespace MarkerAtlas

/-! ## What a filter wants -/

/-- A search text is found in a text: the pattern made of it is not too large, and by the rules
what is read of the pattern matches what is read of the text. -/
def Pattern.Finds (text field : String) : Prop :=
  byteSize (containing text.toList) ≤ sizeLimit ∧
    Matches (readable (containing text.toList)) (readable field.toList)

/-- What a filter asks of a stored marker, on which the flag of its owner is set or not. -/
structure MarkerFilter.Wants (f : MarkerFilter) (m : StoredMarker) (flagged : Prop) : Prop where
  map : ∀ map, f.map = some map → m.map = map
  kind : ∀ kind, f.kind = some kind → m.kind = kind
  faction : ∀ faction, f.faction = some faction →
    m.faction = none ∨ m.faction = some .both ∨ m.faction = some faction
  query : ∀ query, f.query = some query → Text.trim query ≠ "" →
    Pattern.Finds (Text.trim query) m.name ∨
      (∃ region, m.region = some region ∧ Pattern.Finds (Text.trim query) region) ∨
      Pattern.Finds (Text.trim query) m.map
  remaining : f.onlyRemaining = true → ¬ flagged

namespace StoredMarker

variable (m : StoredMarker) (f : MarkerFilter)

theorem found_iff (text : String) :
    m.found (some text) = true ↔ Pattern.Finds text m.name ∨
      (∃ region, m.region = some region ∧ Pattern.Finds text region) ∨
      Pattern.Finds text m.map := by
  simp only [found, Option.all_some, Bool.or_eq_true, Option.any_eq_true,
    Pattern.admits_iff_matches, Pattern.Finds, or_assoc]

theorem found_searchText_iff :
    m.found f.searchText = true ↔ ∀ query, f.query = some query → Text.trim query ≠ "" →
      m.found (some (Text.trim query)) = true := by
  rw [MarkerFilter.searchText]
  cases f.query with
  | none => simp [found]
  | some query =>
    rw [Option.bind_some]
    by_cases hblank : Text.trim query = ""
    · have hnone : Text.trimmed? query = none := by simp [Text.trimmed?, hblank]
      simp [found, hnone, hblank]
    · have hsome : Text.trimmed? query = some (Text.trim query) :=
        Text.trimmed?_eq_some_iff.mpr ⟨rfl, hblank⟩
      simp [hsome, hblank]

end StoredMarker

namespace MarkerFilter

variable (f : MarkerFilter)

/-- The conditions of a listing are true just if the filter wants the marker. -/
theorem wants_iff (s : StoredMarker) (flagged : Bool) :
    f.Wants s (flagged = true) ↔ s.meets f = true ∧ s.found f.searchText = true ∧
      (f.onlyRemaining = true → flagged = false) := by
  rw [s.meets_iff, s.found_searchText_iff]
  simp only [s.found_iff]
  constructor
  · intro h
    exact ⟨⟨h.map, h.kind, h.faction⟩, h.query, fun honly => by simpa using h.remaining honly⟩
  · rintro ⟨⟨hmap, hkind, hfaction⟩, hquery, hremaining⟩
    exact ⟨hmap, hkind, hfaction, hquery, fun honly => by simpa using hremaining honly⟩

end MarkerFilter

/-- A scope and an id that name no owner are those of a character without an id. -/
theorem Owner.of?_eq_none_iff {scope : Scope} {characterId : Option String} :
    of? scope characterId = none ↔
      scope = .character ∧ ∀ id, characterId = some id → Text.trim id = "" := by
  cases scope with
  | account => simp [of?, Scope.owner?]
  | character =>
    cases characterId with
    | none => simp [of?, Scope.owner?]
    | some id => simp [of?, Scope.owner?, Text.trimmed?]

namespace Database

variable {db db' : Database}

/-- The owner has a flag on the marker. -/
def Flagged (db : Database) (owner : Owner) (id : String) : Prop :=
  ∃ flag ∈ db.flags, flag.owner = owner ∧ flag.markerId = id

theorem isDone_iff_flagged (owner : Owner) (id : String) :
    db.isDone owner id = true ↔ db.Flagged owner id := by
  simp only [isDone, Flagged, List.any_eq_true, Bool.and_eq_true, decide_eq_true_eq, beq_iff_eq]

/-- A listing has just what its filter wants. -/
theorem mem_listFor {owner : Owner} {f : MarkerFilter} {m : Marker Float} :
    m ∈ db.listFor owner f ↔ ∃ s ∈ db.markers, f.Wants s (db.isDone owner s.id = true) ∧
      m = s.toMarker (db.isDone owner s.id) := by
  simp only [mem_listFor_iff, mem_sortedMarkers, f.wants_iff, and_assoc]

end Database

/-! ## The order of a listing -/

/-- What markers are listed by, as bytes; no region counts as an empty one. -/
def Marker.listingKey (m : Marker Float) :
    List UInt8 ×ₗ List UInt8 ×ₗ List UInt8 ×ₗ List UInt8 :=
  toLex (Text.bytes m.map, toLex (Text.bytes (m.region.getD ""),
    toLex (Text.bytes m.name, Text.bytes m.id)))

theorem StoredMarker.sortKey_lt_iff (a b : StoredMarker) (done done' : Bool) :
    a.sortKey < b.sortKey ↔ (a.toMarker done).listingKey < (b.toMarker done').listingKey := by
  simp only [sortKey, Marker.listingKey, toMarker, Prod.Lex.toLex_lt_toLex, Text.lt_iff_bytes_lt,
    Text.bytes_inj]

namespace Database

variable {db db' : Database}

theorem Canonical.pairwise_sortedMarkers (h : db.Canonical) :
    db.sortedMarkers.Pairwise fun a b => a.sortKey < b.sortKey := by
  have hle : db.sortedMarkers.Pairwise fun a b => a.comesBefore b = true :=
    StoredMarker.sortsBy_sortKey.pairwise_mergeSort db.markers
  have hne : db.sortedMarkers.Pairwise fun a b => a.id ≠ b.id :=
    List.pairwise_map.mp h.nodup_sortedMarkers
  refine hle.imp₂ (fun a b hle hne => ?_) hne
  -- The key of a marker ends with its id, and no id is stored twice.
  refine lt_of_le_of_ne ((StoredMarker.sortsBy_sortKey a b).mp hle) fun hkey => ?_
  exact hne (StoredMarker.id_eq_of_sortKey_eq hkey)

/-- A listing is in strict order. -/
theorem Canonical.pairwise_listFor (h : db.Canonical) (owner : Owner) (f : MarkerFilter) :
    (db.listFor owner f).Pairwise fun a b => a.listingKey < b.listingKey := by
  refine List.pairwise_map.mpr ?_
  refine (h.pairwise_sortedMarkers.filter _).imp fun hlt => ?_
  exact (StoredMarker.sortKey_lt_iff ..).mp hlt

/-! ## Listings -/

theorem listMarkers_of_owner {f : MarkerFilter} {owner : Owner}
    (howner : Owner.of? f.scope f.characterId = some owner) :
    db.listMarkers f = .ok (db.listFor owner f) := by
  rw [listMarkers, howner]

theorem listMarkers_eq_noCharacter_iff {f : MarkerFilter} :
    db.listMarkers f = .error .noCharacter ↔
      f.scope = .character ∧ ∀ id, f.characterId = some id → Text.trim id = "" := by
  rw [← Owner.of?_eq_none_iff, listMarkers]
  cases Owner.of? f.scope f.characterId <;> simp

theorem listFor_all (owner : Owner) :
    db.listFor owner .all = db.sortedMarkers.map fun m => m.toMarker (db.isDone owner m.id) := by
  refine congrArg (List.map _) (List.filter_eq_self.mpr fun m _ => ?_)
  rw [(m.meets_iff .all).mpr ⟨nofun, nofun, nofun⟩]
  rfl

/-- What is exported is what is listed under the filter that wants everything. -/
theorem exportMarkers_eq (owner : Owner) :
    db.exportMarkers = (db.listFor owner .all).map fun m => { m with done := false } := by
  rw [listFor_all, List.map_map]
  rfl

/-- Databases with the same markers, and flags on the same ones, list the same. -/
theorem Canonical.listMarkers_eq (h : db.Canonical) (h' : db'.Canonical)
    (hmarkers : ∀ m, m ∈ db.markers ↔ m ∈ db'.markers)
    (hflagged : ∀ owner id, db.Flagged owner id ↔ db'.Flagged owner id) (f : MarkerFilter) :
    db.listMarkers f = db'.listMarkers f := by
  -- Rows without duplicates that are the same as a set are the same in another order, and sorting
  -- makes the orders one.
  have hperm : db.markers.Perm db'.markers :=
    (List.perm_ext_iff_of_nodup (.of_map _ h.ids) (.of_map _ h'.ids)).mpr hmarkers
  refine listMarkers_congr (sortedMarkers_eq_of_perm h.ids hperm) fun owner _ id => ?_
  rw [Bool.eq_iff_iff, isDone_iff_flagged, isDone_iff_flagged]
  exact hflagged owner id

/-- The markers are listed that the filter wants: in strict order, each once and as it is stored,
done exactly if the owner has a flag on it. -/
structure Lists (db : Database) (owner : Owner) (f : MarkerFilter)
    (ms : List (Marker Float)) : Prop where
  inOrder : ms.Pairwise fun a b => a.listingKey < b.listingKey
  once : (ms.map (·.id)).Nodup
  wanted : ∀ m, m ∈ ms ↔ ∃ s ∈ db.markers, f.Wants s (db.Flagged owner s.id) ∧
    ∃ done, (done = true ↔ db.Flagged owner s.id) ∧ m = s.toMarker done

theorem Canonical.lists (h : db.Canonical) {f : MarkerFilter} {owner : Owner}
    (howner : Owner.of? f.scope f.characterId = some owner) :
    db.Lists owner f (db.listFor owner f) where
  inOrder := h.pairwise_listFor owner f
  once := (h.faithful (listMarkers_of_owner howner)).nodup
  wanted m := by
    simp only [mem_listFor, ← isDone_iff_flagged, ← Bool.eq_iff_iff, exists_eq_left]

/-- **What a listing shows.** A database that has grown from an empty one by any writes lists, under
each filter that names an owner, just the markers that the filter wants. A filter for a character
without an id fails. A listing depends on what is stored, and not on the order in which it was
written, and an export is the listing of everything without the done flags. -/
theorem Reachable.lists_what_is_wanted (hdb : Reachable db) (f : MarkerFilter) :
    (∀ owner, Owner.of? f.scope f.characterId = some owner →
        ∃ ms, db.listMarkers f = .ok ms ∧ db.Lists owner f ms) ∧
      (db.listMarkers f = .error .noCharacter ↔
        f.scope = .character ∧ ∀ id, f.characterId = some id → Text.trim id = "") ∧
      (∀ db', Reachable db' → (∀ m, m ∈ db.markers ↔ m ∈ db'.markers) →
        (∀ owner id, db.Flagged owner id ↔ db'.Flagged owner id) →
          db.listMarkers f = db'.listMarkers f) ∧
      ∃ ms, db.listMarkers .all = .ok ms ∧
        db.exportMarkers = ms.map fun m => { m with done := false } := by
  refine ⟨fun owner howner => ?_, listMarkers_eq_noCharacter_iff, fun db' hdb' => ?_, ?_⟩
  · exact ⟨_, listMarkers_of_owner howner, hdb.canonical.lists howner⟩
  · exact fun hmarkers hflagged =>
      hdb.canonical.listMarkers_eq hdb'.canonical hmarkers hflagged f
  · exact ⟨_, listMarkers_of_owner (f := .all) rfl, exportMarkers_eq _⟩

/-- A character lists what is left to do on a search, which the account has done. -/
theorem lists_what_is_left :
    let f : MarkerFilter :=
      ⟨.character, some " Hero ", none, some .cube, some .elyos, some "che", true⟩
    ∃ db, Reachable db ∧ db.Flagged ⟨.account, ""⟩ "a" ∧
      ∃ ms, db.listMarkers f = .ok ms ∧ db.Lists ⟨.character, "Hero"⟩ f ms ∧
        ms.map (fun m => (m.id, m.done)) = [("a", false)] := by
  intro f
  let chest : Json :=
    .obj [("id", .str "a"), ("kind", .str "CUBE"), ("map", .str "Poeta"), ("name", .str "Chest")]
  let flag : Json := .obj [("scope", .str "ACCOUNT"), ("markerId", .str "a")]
  let db := ((empty.importMarkers ⟨[chest], none⟩).1.importProgress 5 ⟨[flag]⟩).1
  have hdb : Reachable db := .importProgress 5 _ (.importMarkers _ .empty)
  have hflagged : db.Flagged ⟨.account, ""⟩ "a" :=
    (isDone_iff_flagged _ _).mp (by decide +kernel)
  have howner : Owner.of? f.scope f.characterId = some ⟨.character, "Hero"⟩ := by decide +kernel
  obtain ⟨ms, hlisted, hms⟩ := (hdb.lists_what_is_wanted f).1 _ howner
  -- The listing that the theorem speaks of is the one that is worked out below.
  obtain rfl : db.listFor ⟨.character, "Hero"⟩ f = ms := by
    rw [listMarkers_of_owner howner] at hlisted
    exact Except.ok.inj hlisted
  exact ⟨db, hdb, hflagged, _, hlisted, hms, by decide +kernel⟩

/-- A search for the name of a marker does not find the marker if the name is too long for a
pattern. -/
theorem unfound_of_long_name {m : Marker Float} (h : m.Importable)
    (hlong : Pattern.sizeLimit < m.name.toList.length + 2) (source : Option String) :
    (empty.importMarkers ⟨[m.encode], source⟩).1.markers = [m.stored] ∧
      (empty.importMarkers ⟨[m.encode], source⟩).1.listMarkers
        { MarkerFilter.all with query := some m.name } = .ok [] := by
  constructor
  · obtain ⟨log, himport⟩ := importMarkers_of_importable
      (List.forall_mem_singleton.mpr h) (List.nodup_singleton _) source
    exact congrArg (·.1.markers) himport
  · refine listMarkers_of_long ?_ hlong rfl _
    show (some m.name).bind Text.trimmed? = some m.name
    rw [Option.bind_some, h.name]

/-- A search asks what its pattern matches, and not what contains the text. The name of a marker is
not found in itself if it is too long for a pattern. What stands before a NUL is found without the
rest, and a code point that is no character where the replacement character stands. -/
theorem searches_by_pattern :
    let chest (name : String) : Marker Float :=
      ⟨"m", .cube, none, "Poeta", none, name, none, none, none, some "survey", false⟩
    let db (name : String) := (empty.importMarkers ⟨[(chest name).encode], none⟩).1
    let search (text : String) : MarkerFilter := { MarkerFilter.all with query := some text }
    let long := String.ofList (List.replicate 49999 'a')
    (∀ name, Reachable (db name)) ∧
      (Text.trim long = long ∧ (db long).markers = [(chest long).stored] ∧
        (db long).listMarkers (search long) = .ok []) ∧
      (Text.trim "a\x00b" = "a\x00b" ∧ ¬ "a\x00b".toList <:+: "a".toList ∧
        ¬ "a\x00b".toList <:+: "Poeta".toList ∧
        ∃ ms, (db "a").listMarkers (search "a\x00b") = .ok ms ∧ ms.map (·.name) = ["a"]) ∧
      Text.trim "\uFFFE" = "\uFFFE" ∧ ¬ "\uFFFE".toList <:+: "\uFFFD".toList ∧
        ¬ "\uFFFE".toList <:+: "Poeta".toList ∧
        ∃ ms, (db "\uFFFD").listMarkers (search "\uFFFE") = .ok ms ∧
          ms.map (·.name) = ["\uFFFD"] := by
  -- How long the text is matters only where it is compared with the limit.
  obtain ⟨n, hn⟩ : ∃ n, n = 49999 := ⟨_, rfl⟩
  rw [← hn]
  intro chest db search long
  have htrimmed : Text.trimmed? long = some long :=
    Text.trimmed?_replicate (by decide) (by rw [hn]; decide)
  have hlong : Pattern.sizeLimit < long.toList.length + 2 := by
    rw [String.toList_ofList, List.length_replicate, hn]
    decide
  have himportable : ∀ name, Text.trimmed? name = some name → (chest name).Importable := by
    intro name hname
    refine ⟨?_, ?_, hname, "survey", rfl, ?_⟩
    · show Text.trimmed? "m" = some "m"
      decide +kernel
    · show Text.trimmed? "Poeta" = some "Poeta"
      decide +kernel
    · decide +kernel
  obtain ⟨hmarkers, hunfound⟩ := unfound_of_long_name (himportable long htrimmed) hlong none
  refine ⟨fun name => .importMarkers _ .empty, ⟨?_, hmarkers, hunfound⟩, ?_, ?_⟩
  · exact (Text.trimmed?_eq_some_iff.mp htrimmed).1
  · exact ⟨by decide +kernel, by decide, by decide, _, rfl, by decide +kernel⟩
  · exact ⟨by decide +kernel, by decide, by decide, _, rfl, by decide +kernel⟩

end Database

end MarkerAtlas
