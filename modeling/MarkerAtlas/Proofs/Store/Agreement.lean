import MarkerAtlas.Proofs.Database.Search
import MarkerAtlas.Proofs.Database.Writes
import MarkerAtlas.Proofs.Session.Coherent
import MarkerAtlas.Proofs.Store.Flags

/-!
# The two stores agree

A store in memory and a database that hold the same markers obey the same commands, and go on
listing the same markers with the same flags. What they are compared under is what both can hold:
markers whose texts an import keeps, ASCII where texts are searched, and searches whose pattern is
not too large for the database. A coordinate is the same number in both, but a database drops the
sign of zero.
-/

namespace MarkerAtlas

/-! ## Owners -/

/-- A character is named, if one is, by an id without blanks around it. -/
def Scope.NamesPlainly (scope : Scope) (characterId : Option String) : Prop :=
  scope = .character → ∀ id, characterId = some id → Text.trimmed? id = some id

namespace Owner

/-- The key under which the store in memory keeps the owner's flag on a marker. -/
def key (o : Owner) (markerId : String) : ProgressKey :=
  ⟨o.scope, MemoryStore.characterOf o.scope (some o.name), markerId⟩

theorem Canonical.name_of_account {name : String} (h : Owner.Canonical ⟨.account, name⟩) :
    name = "" := by
  have heq : (⟨.account, ""⟩ : Owner) = ⟨.account, name⟩ := Option.some.inj h
  exact ((Owner.mk.injEq ..).mp heq).2.symm

/-- Owners that a backup can name have keys of their own. -/
theorem key_eq_iff {o o' : Owner} (ho : o.Canonical) (ho' : o'.Canonical) {id id' : String} :
    o.key id = o'.key id' ↔ o = o' ∧ id = id' := by
  constructor
  · intro h
    obtain ⟨scope, name⟩ := o
    obtain ⟨scope', name'⟩ := o'
    obtain ⟨rfl, hname, rfl⟩ := (ProgressKey.mk.injEq ..).mp h
    -- An account has no name, so that nothing is lost by leaving it out of the key.
    cases scope with
    | account =>
      obtain rfl := ho.name_of_account
      obtain rfl := ho'.name_of_account
      exact ⟨rfl, rfl⟩
    | character =>
      obtain rfl : name = name' := Option.some.inj hname
      exact ⟨rfl, rfl⟩
  · rintro ⟨rfl, rfl⟩
    rfl

/-- Both stores see whether an owner is named, and the same one. -/
theorem of?_cases {scope : Scope} {characterId : Option String}
    (h : scope.NamesPlainly characterId) :
    (MemoryStore.lacksCharacter scope characterId = true ∧ of? scope characterId = none) ∨
      (MemoryStore.lacksCharacter scope characterId = false ∧
        ∃ o, of? scope characterId = some o ∧ ∀ id,
          (⟨scope, MemoryStore.characterOf scope characterId, id⟩ : ProgressKey) = o.key id) := by
  cases scope with
  | account => exact .inr ⟨rfl, ⟨.account, ""⟩, rfl, fun _ => rfl⟩
  | character =>
    -- Only a character can lack a name; one that is named plainly has the same name in both stores.
    cases characterId with
    | none => exact .inl ⟨rfl, rfl⟩
    | some id =>
      have htrimmed := h rfl id rfl
      refine .inr ⟨rfl, ⟨.character, id⟩, ?_, fun _ => rfl⟩
      rw [of?, Scope.owner?, Option.bind_some, htrimmed, Option.map_some]

end Owner

/-! ## Commands one after another -/

namespace Store

variable {σ α : Type}

/-- The store after a command, whether or not it is obeyed. -/
def obey (store : Store σ α) (s : σ) (c : SetDone) : σ :=
  match store.setDone s c with
  | .ok s' => s'
  | .error _ => s

/-- The store after commands, each given at its time. -/
def after (store : Int64 → Store σ α) (s : σ) (commands : List (Int64 × SetDone)) : σ :=
  commands.foldl (fun s c => (store c.1).obey s c.2) s

end Store

/-! ## What the stores hold -/

/-- A marker that both stores hold as it is. -/
structure Marker.Portable (m : Marker Float) : Prop extends m.Importable where
  undone : m.done = false
  asciiName : Text.Ascii m.name.toList
  asciiRegion : ∀ r, m.region = some r → Text.Ascii r.toList
  asciiMap : Text.Ascii m.map.toList
  finiteX : ∀ x, m.x = some x → Scalar.isFinite x = true
  finiteY : ∀ y, m.y = some y → Scalar.isFinite y = true

/-- The marker with coordinates as a database gives them back: zero has no sign. -/
def Marker.unsigned (m : Marker Float) : Marker Float :=
  { m with x := StoredMarker.storedCoordinate m.x, y := StoredMarker.storedCoordinate m.y }

/-- A filter under which both stores search alike. -/
structure MarkerFilter.Portable (f : MarkerFilter) : Prop where
  owner : f.scope.NamesPlainly f.characterId
  ascii : ∀ q, f.query = some q → Text.Ascii q.toList
  bounded : ∀ w, f.searchText = some w →
    Pattern.byteSize (Pattern.containing w.toList) ≤ Pattern.sizeLimit

/-- The store in memory and the database hold these markers, and the same flags on them. -/
structure Agree (markers : List (Marker Float)) (memory : MemoryStore Float)
    (db : Database) : Prop where
  reads : memory.refusesReads = false
  writes : memory.refusesWrites = false
  held : memory.markers = markers
  rows : db.markers = markers.map Marker.stored
  flags : ∀ o : Owner, o.Canonical → ∀ id, db.isDone o id = true ↔ o.key id ∈ memory.progress

variable {markers : List (Marker Float)} {memory : MemoryStore Float} {db : Database}

/-- Markers that were just imported are the same in both stores, and none is done. -/
theorem agree_import (hportable : ∀ m ∈ markers, m.Portable) (hnd : (markers.map (·.id)).Nodup)
    (maps : List MapMeta) (source : Option String) :
    Agree markers (MemoryStore.ofLists maps markers)
      (Database.empty.importMarkers ⟨markers.map Marker.encode, source⟩).1 := by
  obtain ⟨log, himport⟩ := Database.importMarkers_of_importable
    (fun m hm => (hportable m hm).toImportable) hnd source
  -- None is done, and neither store has heard of a command.
  have hundone : markers.filter (·.done) = [] := by
    refine List.filter_eq_nil_iff.mpr fun m hm => ?_
    rw [(hportable m hm).undone]
    exact Bool.false_ne_true
  refine ⟨rfl, rfl, rfl, by rw [himport], fun o _ id => ?_⟩
  have hmemory : (MemoryStore.ofLists maps markers).progress = [] := by
    rw [MemoryStore.ofLists, hundone, List.map_nil]
  rw [himport, hmemory]
  simp [Database.isDone]

/-! ## Commands -/

/-- The store in memory lists a marker if it has the map, the kind and one of the factions that the
filter asks for, as far as it asks for them. -/
theorem MarkerFilter.admits_iff {α : Type} (f : MarkerFilter) (m : Marker α) :
    f.admits m = true ↔ (∀ map, f.map = some map → m.map = map) ∧
      (∀ kind, f.kind = some kind → m.kind = kind) ∧
      ∀ faction, f.faction = some faction →
        m.faction = none ∨ m.faction = some .both ∨ m.faction = some faction := by
  simp only [admits, Bool.and_eq_true, Option.all_eq_true, beq_iff_eq, and_assoc]
  refine and_congr (forall₂_congr fun _ _ => eq_comm) (and_congr (forall₂_congr fun _ _ => eq_comm)
    (forall₂_congr fun wanted _ => ?_))
  -- A marker without a faction, or with both, is of any faction that is asked for.
  cases m.faction with
  | none => simp
  | some own => cases own <;> simp

namespace Agree

theorem hasMarker_iff (h : Agree markers memory db) (id : String) :
    db.hasMarker id = true ↔ ∃ m ∈ memory.markers, m.id = id := by
  rw [Database.hasMarker_iff, h.rows, h.held, List.map_map, List.mem_map]
  rfl

/-- A command that the store in memory obeys sets the flag that it sets in the database. -/
theorem of_obeyed (h : Agree markers memory db) {c : SetDone} {memory' : MemoryStore Float}
    {db' : Database} {now : Int64} {o : Owner} (ho : Owner.of? c.scope c.characterId = some o)
    (hkey : ∀ id,
      (⟨c.scope, MemoryStore.characterOf c.scope c.characterId, id⟩ : ProgressKey) = o.key id)
    (hmemory : memory.setDone c = .ok memory') (hdb : db.setDone now c = .ok db') :
    Agree markers memory' db' := by
  have hobeyed := MemoryStore.setDone_ok hmemory
  obtain ⟨hmarkers, o', ho', hisDone⟩ := Database.isDone_of_setDone hdb
  obtain rfl : o = o' := Option.some.inj (ho.symm.trans ho')
  refine ⟨?_, ?_, ?_, hmarkers.trans h.rows, fun p hp id => ?_⟩
  · rw [hobeyed.kept]
    exact h.reads
  · rw [hobeyed.kept]
    exact h.writes
  · rw [hobeyed.kept]
    exact h.held
  · -- Both stores change one key, and their keys are the same exactly if owner and marker are.
    have hsame : p.key id = MemoryStore.keyOf c ↔ p = o ∧ id = c.markerId := by
      rw [MemoryStore.keyOf, hkey, Owner.key_eq_iff hp (Owner.canonical_of_of? ho)]
    rw [hobeyed.progress, hisDone]
    by_cases hthis : p = o ∧ id = c.markerId
    · rw [if_pos hthis, if_pos (hsame.mpr hthis)]
    · rw [if_neg hthis, if_neg fun heq => hthis (hsame.mp heq)]
      exact h.flags p hp id

/-- A command is obeyed by both stores, which then agree again, or refused by both. -/
theorem setDone (h : Agree markers memory db) {c : SetDone}
    (hc : c.scope.NamesPlainly c.characterId) (now : Int64) :
    (∃ memory' db', memory.setDone c = .ok memory' ∧
        Archive.setDone now (.opened db) c = .ok (.opened db') ∧ Agree markers memory' db') ∨
      ∃ why why', memory.setDone c = .error why ∧
        Archive.setDone now (.opened db) c = .error why' := by
  -- What either store obeys names an owner and a marker that both have.
  cases hmemory : memory.setDone c with
  | error why =>
    refine .inr ⟨why, ?_⟩
    cases hdb : Archive.setDone now (.opened db) c with
    | error why' => exact ⟨why', rfl, rfl⟩
    | ok archive =>
      obtain ⟨_, db', hopened, hset, -⟩ := Archive.setDone_ok hdb
      cases hopened
      obtain ⟨o, ho, hknown, -⟩ := Database.setDone_ok hset
      -- The database has obeyed, so that the owner is named and the marker is known; then the store
      -- in memory cannot have refused.
      obtain ⟨-, hnone⟩ | ⟨howned, -⟩ := Owner.of?_cases hc
      · rw [hnone] at ho
        cases ho
      · obtain ⟨memory', hok⟩ := MemoryStore.exists_setDone h.writes howned
          ((h.hasMarker_iff _).mp hknown)
        rw [hok] at hmemory
        cases hmemory
  | ok memory' =>
    have hobeyed := MemoryStore.setDone_ok hmemory
    have hknown := (h.hasMarker_iff _).mpr hobeyed.known
    -- Likewise the other way round.
    obtain ⟨hlacks, -⟩ | ⟨-, o, ho, hkey⟩ := Owner.of?_cases hc
    · rw [hobeyed.owned] at hlacks
      cases hlacks
    · obtain ⟨db', hdb⟩ := Archive.setDone_of_hasMarker (by rw [ho, Option.isSome_some]) hknown now
      obtain ⟨_, _, hopened, hset, hopened'⟩ := Archive.setDone_ok hdb
      cases hopened
      cases hopened'
      exact .inl ⟨memory', db', rfl, hdb, h.of_obeyed ho hkey hmemory hset⟩

/-- The stores agree after a command, whether or not they obey it. -/
theorem obey (h : Agree markers memory db) {c : SetDone}
    (hc : c.scope.NamesPlainly c.characterId) (now : Int64) :
    ∃ db', (Archive.store now).obey (.opened db) c = .opened db' ∧
      Agree markers (MemoryStore.store.obey memory c) db' := by
  obtain ⟨memory', db', hmemory, hdb, h'⟩ | ⟨why, why', hmemory, hdb⟩ := h.setDone hc now
  · refine ⟨db', ?_, ?_⟩
    · simp only [Store.obey, Archive.store, hdb]
    · simpa only [Store.obey, MemoryStore.store, hmemory] using h'
  · refine ⟨db, ?_, ?_⟩
    · simp only [Store.obey, Archive.store, hdb]
    · simpa only [Store.obey, MemoryStore.store, hmemory] using h

/-- The stores agree after any commands. -/
theorem after (h : Agree markers memory db) {commands : List (Int64 × SetDone)}
    (hcommands : ∀ c ∈ commands, c.2.scope.NamesPlainly c.2.characterId) :
    ∃ db', Store.after Archive.store (.opened db) commands = .opened db' ∧
      Agree markers (Store.after (fun _ => MemoryStore.store) memory commands) db' := by
  -- By induction along the commands, with the stores as the commands before have left them.
  induction commands generalizing memory db with
  | nil => exact ⟨db, rfl, h⟩
  | cons c cs ih =>
    obtain ⟨db', hdb, h'⟩ := h.obey (hcommands c List.mem_cons_self) c.1
    rw [Store.after, Store.after, List.foldl_cons, List.foldl_cons, hdb]
    exact ih h' fun d hd => hcommands d (List.mem_cons_of_mem c hd)

/-! ## Listings -/

theorem found_eq {m : Marker Float} (hm : m.Portable) {f : MarkerFilter} (hf : f.Portable) :
    m.stored.found f.searchText = MemoryStore.found f m := by
  unfold StoredMarker.found MemoryStore.found
  cases hsearch : f.searchText with
  | none => rw [Option.all_none, Option.all_none]
  | some w =>
    -- Between ASCII texts a pattern that the database is able to match finds what the store in
    -- memory finds.
    obtain ⟨q, hq, htrimmed⟩ := Option.bind_eq_some_iff.mp hsearch
    have hw : Text.Ascii w.toList := (hf.ascii q hq).of_trimmed? htrimmed
    have hsize := hf.bounded w hsearch
    have hregion : (m.region.any fun r =>
        Pattern.admits (Pattern.containing w.toList) r.toList) =
          m.region.any (MemoryStore.holds w) := by
      cases hr : m.region with
      | none => rw [Option.any_none, Option.any_none]
      | some r =>
        rw [Option.any_some, Option.any_some]
        exact Pattern.admits_containing_eq_holds hw (hm.asciiRegion r hr) hsize
    have hname := Pattern.admits_containing_eq_holds hw hm.asciiName hsize
    have hmap := Pattern.admits_containing_eq_holds hw hm.asciiMap hsize
    simp only [Option.all_some, Marker.stored, hregion, hname, hmap]

/-- A row is taken by the database's conditions on map, kind and faction if the marker passes the
tests of the store in memory. -/
theorem meets_eq_admits (f : MarkerFilter) (m : Marker Float) : m.stored.meets f = f.admits m := by
  -- Either side is what it asks for, written out apart from the other.
  rw [Bool.eq_iff_iff, m.stored.meets_iff, f.admits_iff]
  rfl

/-- A marker is listed with the same flag by both stores. -/
theorem toMarker_eq (h : Agree markers memory db) {f : MarkerFilter} {o : Owner}
    (ho : Owner.of? f.scope f.characterId = some o)
    (hkey : ∀ id, (⟨f.scope, MemoryStore.characterOf f.scope f.characterId, id⟩ : ProgressKey) =
      o.key id) (m : Marker Float) :
    m.stored.toMarker (db.isDone o m.id) = (memory.marked f m).unsigned := by
  -- Only the flag is looked up; it is found under the key of the owner.
  have hflag : db.isDone o m.id = decide
      ((⟨f.scope, MemoryStore.characterOf f.scope f.characterId, m.id⟩ : ProgressKey) ∈
        memory.progress) := by
    rw [Bool.eq_iff_iff, decide_eq_true_iff, hkey]
    exact h.flags o (Owner.canonical_of_of? ho) m.id
  rw [hflag]
  rfl

/-- What the database lists is what the store in memory lists, in another order. -/
theorem listFor_perm (h : Agree markers memory db) (hportable : ∀ m ∈ markers, m.Portable)
    {f : MarkerFilter} (hf : f.Portable) {o : Owner}
    (ho : Owner.of? f.scope f.characterId = some o)
    (hkey : ∀ id, (⟨f.scope, MemoryStore.characterOf f.scope f.characterId, id⟩ : ProgressKey) =
      o.key id) :
    (db.listFor o f).Perm
      ((((markers.filter fun m => f.admits m && MemoryStore.found f m).map
        (memory.marked f)).filter fun m => !(f.onlyRemaining && m.done)).map Marker.unsigned) := by
  have hperm := db.sortedMarkers_perm
  rw [h.rows] at hperm
  refine ((hperm.filter _).map _).trans (List.Perm.of_eq ?_)
  -- Both are the markers that pass the same tests, only in another order.
  rw [List.filter_map, List.map_map, List.filter_map, List.filter_filter, List.map_map,
    show (fun s : StoredMarker => s.toMarker (db.isDone o s.id)) ∘ Marker.stored =
      Marker.unsigned ∘ memory.marked f from funext (h.toMarker_eq ho hkey)]
  refine congrArg (List.map _) (List.filter_congr fun m hm => ?_)
  have hflag : db.isDone o m.id = (memory.marked f m).done :=
    congrArg Marker.done (h.toMarker_eq ho hkey m)
  have htests : (m.stored.meets f && m.stored.found f.searchText &&
      (!f.onlyRemaining || !db.isDone o m.id)) =
        (!(f.onlyRemaining && (memory.marked f m).done) &&
          (f.admits m && MemoryStore.found f m)) := by
    rw [meets_eq_admits, found_eq (hportable m hm) hf, hflag, Bool.not_and, Bool.and_comm]
  exact htests

/-- Under a filter both stores list the same markers with the same flags, or neither lists any. -/
theorem listMarkers (h : Agree markers memory db) (hportable : ∀ m ∈ markers, m.Portable)
    {f : MarkerFilter} (hf : f.Portable) :
    (∃ why why', memory.listMarkers f = .error why ∧
        (Archive.opened db).listMarkers f = .error why') ∨
      ∃ shown listed, memory.listMarkers f = .ok shown ∧
        (Archive.opened db).listMarkers f = .ok listed ∧
        listed.Perm (shown.map Marker.unsigned) := by
  rw [Archive.listMarkers_opened]
  -- Without an owner both refuse; with one both list.
  obtain ⟨hlacks, hnone⟩ | ⟨howned, o, ho, hkey⟩ := Owner.of?_cases hf.owner
  · refine .inl ⟨.noCharacter, .noCharacter, ?_, ?_⟩
    · simp [MemoryStore.listMarkers, h.reads, hlacks]
    · simp [Database.listMarkers, hnone]
  · have hmemory : memory.listMarkers f =
        .ok (((markers.filter fun m => f.admits m && MemoryStore.found f m).map
          (memory.marked f)).filter fun m => !(f.onlyRemaining && m.done)) := by
      simp only [MemoryStore.listMarkers, h.reads, howned, Bool.false_eq_true, if_false, h.held]
    have hdb : db.listMarkers f = .ok (db.listFor o f) := by rw [Database.listMarkers, ho]
    exact .inr ⟨_, _, hmemory, hdb, h.listFor_perm hportable hf ho hkey⟩

end Agree

/-- Markers that are handed to a store in memory and imported into an empty database are kept by
both alike: after any commands, both obey the same commands, and under every filter both list the
same markers with the same flags. -/
theorem stores_agree {markers : List (Marker Float)} (hportable : ∀ m ∈ markers, m.Portable)
    (hnd : (markers.map (·.id)).Nodup) (maps : List MapMeta) (source : Option String)
    {commands : List (Int64 × SetDone)}
    (hcommands : ∀ c ∈ commands, c.2.scope.NamesPlainly c.2.characterId) :
    let memory :=
      Store.after (fun _ => MemoryStore.store) (MemoryStore.ofLists maps markers) commands
    let archive := Store.after Archive.store
      (.opened (Database.empty.importMarkers ⟨markers.map Marker.encode, source⟩).1) commands
    (∀ (now : Int64) (c : SetDone), c.scope.NamesPlainly c.characterId →
      (memory.setDone c).isOk = (archive.setDone now c).isOk) ∧
    ∀ f : MarkerFilter, f.Portable →
      (memory.listMarkers f).isOk = (archive.listMarkers f).isOk ∧
      ∀ shown, memory.listMarkers f = .ok shown →
        ∃ listed, archive.listMarkers f = .ok listed ∧ listed.Perm (shown.map Marker.unsigned) := by
  -- The stores agree after the import, hence after the commands, and agreement says all there is.
  obtain ⟨db, hdb, hagree⟩ := (agree_import hportable hnd maps source).after hcommands
  rw [hdb]
  refine ⟨fun now c hc => ?_, fun f hf => ?_⟩
  · obtain ⟨memory', db', hok, hok', -⟩ | ⟨why, why', hno, hno'⟩ := hagree.setDone hc now
    · rw [hok, hok']
      rfl
    · rw [hno, hno']
      rfl
  · obtain ⟨why, why', hno, hno'⟩ | ⟨shown, listed, hok, hok', hperm⟩ :=
      hagree.listMarkers hportable hf
    · rw [hno, hno']
      exact ⟨rfl, fun shown hshown => by cases hshown⟩
    · rw [hok, hok']
      refine ⟨rfl, fun shown' hshown' => ?_⟩
      cases hshown'
      exact ⟨listed, rfl, hperm⟩

/-- A marker with plain texts and no region. -/
theorem Marker.portable_of_plain {m : Marker Float} (hid : Text.trimmed? m.id = some m.id)
    (hmap : Text.trimmed? m.map = some m.map) (hname : Text.trimmed? m.name = some m.name)
    (hsource : ∃ s, m.source = some s ∧ Text.trimmed? s = some s) (hundone : m.done = false)
    (hasciiName : Text.Ascii m.name.toList) (hregion : m.region = none)
    (hasciiMap : Text.Ascii m.map.toList) (hx : m.x.all Scalar.isFinite = true)
    (hy : m.y.all Scalar.isFinite = true) : m.Portable where
  id := hid
  map := hmap
  name := hname
  source := hsource
  undone := hundone
  asciiName := hasciiName
  asciiRegion := fun r hr => by rw [hregion] at hr; cases hr
  asciiMap := hasciiMap
  finiteX := fun x hm => by rwa [hm] at hx
  finiteY := fun y hm => by rwa [hm] at hy

/-- Of two chests that both stores hold, one is set done; a search for what remains then finds the
other one in both. -/
theorem stores_agree_on_remaining :
    let chest (id : String) : Marker Float :=
      ⟨id, .cube, none, "Poeta", none, "Chest", none, some 1, some 2, some "survey", false⟩
    let commands : List (Int64 × SetDone) := [(5, ⟨.account, none, "a", true⟩)]
    let search : MarkerFilter :=
      { MarkerFilter.all with query := some " cHEST", onlyRemaining := true }
    ∃ shown listed,
      (Store.after (fun _ => MemoryStore.store) (MemoryStore.ofLists [] [chest "a", chest "b"])
        commands).listMarkers search = .ok shown ∧
      (Store.after Archive.store (.opened (Database.empty.importMarkers
        ⟨[chest "a", chest "b"].map Marker.encode, none⟩).1) commands).listMarkers search =
          .ok listed ∧
      shown.map (·.id) = ["b"] ∧ listed.map (·.id) = ["b"] := by
  intro chest commands search
  -- What the theorem asks for holds of the chests, the search and the command.
  have hportable : ∀ m ∈ [chest "a", chest "b"], m.Portable := by
    have htrimmed : ∀ m ∈ [chest "a", chest "b"], Text.trimmed? m.id = some m.id := by
      decide +kernel
    intro m hm
    have hid := htrimmed m hm
    rcases List.mem_pair.mp hm with rfl | rfl
    all_goals
      exact Marker.portable_of_plain hid (by decide +kernel) (by decide +kernel)
        ⟨"survey", rfl, by decide +kernel⟩ rfl (by decide +kernel) rfl (by decide +kernel)
        (by decide +kernel) (by decide +kernel)
  have htext : search.searchText = some "cHEST" := by decide +kernel
  have hsearch : search.Portable :=
    { owner := fun hscope => by cases hscope
      ascii := fun q hq => by cases hq; decide +kernel
      bounded := fun w hw => by
        obtain rfl : "cHEST" = w := Option.some.inj (htext.symm.trans hw)
        decide +kernel }
  have hcommands : ∀ c ∈ commands, c.2.scope.NamesPlainly c.2.characterId := by
    intro c hc hscope
    obtain rfl := List.mem_singleton.mp hc
    cases hscope
  let memory := Store.after (fun _ => MemoryStore.store)
    (MemoryStore.ofLists [] [chest "a", chest "b"]) commands
  have hids : (memory.listMarkers search).toOption.map (·.map (·.id)) = some ["b"] := by
    decide +kernel
  -- The store in memory can be run; what the database lists follows from the agreement.
  cases hmemory : memory.listMarkers search with
  | error why =>
    rw [hmemory] at hids
    cases hids
  | ok shown =>
    rw [hmemory] at hids
    have hshown : shown.map (·.id) = ["b"] := Option.some.inj hids
    obtain ⟨listed, hlisted, hperm⟩ :=
      ((stores_agree hportable (by decide +kernel) [] none hcommands).2 search hsearch).2 shown
        hmemory
    refine ⟨shown, listed, rfl, hlisted, hshown, ?_⟩
    have hlistedIds := hperm.map (·.id)
    rw [List.map_map] at hlistedIds
    exact List.perm_singleton.mp (hlistedIds.trans (.of_eq hshown))

/-! ## Where the stores differ -/

/-- However long the text is, the store in memory finds the markers with this name. -/
theorem MemoryStore.found_of_name {f : MarkerFilter} {m : Marker Float}
    (hsearch : f.searchText = some m.name) (hascii : Text.Ascii m.name.toList) :
    MemoryStore.found f m = true := by
  have hholds : MemoryStore.holds m.name m.name = true :=
    (MemoryStore.holds_iff hascii hascii).mpr List.infix_rfl
  rw [MemoryStore.found, hsearch, Option.all_some, hholds, Bool.true_or, Bool.true_or]

/-- A marker by itself is listed by both stores; in the database its coordinates have no sign of
zero. -/
theorem listed_alone {m : Marker Float} (hm : m.Portable) (maps : List MapMeta)
    (source : Option String) :
    (MemoryStore.ofLists maps [m]).listMarkers .all = .ok [m] ∧
      (Archive.opened (Database.empty.importMarkers ⟨[m].map Marker.encode, source⟩).1).listMarkers
        .all = .ok [m.unsigned] := by
  have hmarkers := List.forall_mem_singleton.mpr hm
  have hall : MarkerFilter.all.Portable :=
    { owner := fun hscope => by cases hscope
      ascii := fun q hq => by cases hq
      bounded := fun w hw => by cases hw }
  -- Nothing is asked for and nothing is done, so the marker passes.
  have hmemory : (MemoryStore.ofLists maps [m]).listMarkers .all = .ok [m] := by
    obtain ⟨id, kind, faction, map, region, name, note, x, y, markerSource, done⟩ := m
    obtain rfl : done = false := hm.undone
    rfl
  refine ⟨hmemory, ?_⟩
  obtain ⟨why, why', hno, -⟩ | ⟨shown, listed, hshown, hlisted, hperm⟩ :=
    (agree_import hmarkers (List.nodup_singleton _) maps source).listMarkers hmarkers hall
  · cases hmemory.symm.trans hno
  · cases hmemory.symm.trans hshown
    rw [List.map_singleton, List.perm_singleton] at hperm
    rw [hlisted, hperm]

/-- A search for the name of a marker finds the marker in memory; if the name is too long for a
pattern, it finds nothing in the database. -/
theorem found_alone_of_long {m : Marker Float} (hm : m.Portable)
    (hlong : Pattern.sizeLimit < m.name.toList.length + 2) (maps : List MapMeta)
    (source : Option String) :
    (MemoryStore.ofLists maps [m]).listMarkers { MarkerFilter.all with query := some m.name } =
        .ok [m] ∧
      (Archive.opened (Database.empty.importMarkers ⟨[m].map Marker.encode, source⟩).1).listMarkers
        { MarkerFilter.all with query := some m.name } = .ok [] := by
  let search : MarkerFilter := { MarkerFilter.all with query := some m.name }
  have htext : search.searchText = some m.name := by
    show (some m.name).bind Text.trimmed? = some m.name
    rw [Option.bind_some, hm.name]
  constructor
  · -- In memory the name holds itself, whatever its length.
    have hfound := MemoryStore.found_of_name htext hm.asciiName
    have hlisted : [m].filter (fun m => search.admits m && MemoryStore.found search m) = [m] := by
      refine List.filter_eq_self.mpr (List.forall_mem_singleton.mpr ?_)
      rw [hfound]
      rfl
    have hmarked : (MemoryStore.ofLists maps [m]).marked search m = m := by
      obtain ⟨id, kind, faction, map, region, name, note, x, y, markerSource, done⟩ := m
      obtain rfl : done = false := hm.undone
      rfl
    show Except.ok ((([m].filter fun m => search.admits m && MemoryStore.found search m).map
      ((MemoryStore.ofLists maps [m]).marked search)).filter
        fun m => !(search.onlyRemaining && m.done)) = _
    rw [hlisted, List.map_singleton, hmarked]
    rfl
  · -- In the database no pattern of that length is matched with anything.
    rw [Archive.listMarkers_opened]
    exact Database.listMarkers_of_long htext hlong rfl _

/-- A database drops the sign of a coordinate that is zero, and finds nothing for a search that is
too long for a pattern; the store in memory does neither. -/
theorem stores_differ :
    let chest (name : String) (x : Option Float) : Marker Float :=
      ⟨"m", .cube, none, "Poeta", none, name, none, x, none, some "survey", false⟩
    let memory (m : Marker Float) := MemoryStore.ofLists [] [m]
    let archive (m : Marker Float) :=
      Archive.opened (Database.empty.importMarkers ⟨[m].map Marker.encode, none⟩).1
    let long := String.ofList (List.replicate 49999 'a')
    ((chest "Chest" (some (-0.0))).Portable ∧
      (memory (chest "Chest" (some (-0.0)))).listMarkers .all =
        .ok [chest "Chest" (some (-0.0))] ∧
      (archive (chest "Chest" (some (-0.0)))).listMarkers .all = .ok [chest "Chest" (some 0.0)] ∧
      (-0.0 : Float) ≠ 0.0) ∧
    (chest long none).Portable ∧ Text.Ascii long.toList ∧
      (memory (chest long none)).listMarkers { MarkerFilter.all with query := some long } =
        .ok [chest long none] ∧
      (archive (chest long none)).listMarkers { MarkerFilter.all with query := some long } =
        .ok [] := by
  -- How long the text is matters only where it is compared with the limit.
  obtain ⟨n, hn⟩ : ∃ n, n = 49999 := ⟨_, rfl⟩
  rw [← hn]
  intro chest memory archive long
  have hchest : ∀ name x, Text.trimmed? name = some name → Text.Ascii name.toList →
      x.all Scalar.isFinite = true → (chest name x).Portable := by
    intro name x hname hascii hx
    exact Marker.portable_of_plain (show Text.trimmed? "m" = some "m" by decide +kernel)
      (show Text.trimmed? "Poeta" = some "Poeta" by decide +kernel) hname
      ⟨"survey", rfl, by decide +kernel⟩ rfl hascii rfl
      (show Text.Ascii "Poeta".toList by decide +kernel) hx rfl
  constructor
  · have hportable := hchest "Chest" (some (-0.0)) (by decide +kernel)
      (by decide +kernel) (by decide +kernel)
    obtain ⟨hmemory, harchive⟩ := listed_alone hportable [] none
    have hunsigned : (chest "Chest" (some (-0.0))).unsigned = chest "Chest" (some 0.0) := by
      have hzero : Scalar.plainZero (-0.0 : Float) = 0.0 := if_pos (by decide +kernel)
      exact congrArg (chest "Chest") (congrArg some hzero)
    refine ⟨hportable, hmemory, hunsigned ▸ harchive, fun hsame => ?_⟩
    -- The two zeros have inverses of different signs.
    have hinverse := congrArg (fun x : Float => decide (1 / x < 0)) hsame
    exact absurd hinverse (by decide +kernel)
  · have hlong : long.toList = List.replicate n 'a' := String.toList_ofList
    have hletter : long.toList ⊆ ['a'] := hlong ▸ List.replicate_subset_singleton n 'a'
    have hlength : long.toList.length = n := by rw [hlong, List.length_replicate]
    have hascii : Text.Ascii long.toList :=
      Text.Ascii.of_subset (show Text.Ascii ['a'] by decide) hletter
    have htrimmed : Text.trimmed? long = some long :=
      Text.trimmed?_replicate (by decide) (by rw [hn]; decide)
    have hportable := hchest long none htrimmed hascii rfl
    have hlimit : Pattern.sizeLimit < long.toList.length + 2 := by
      rw [hlength, hn]
      decide
    exact ⟨hportable, hascii, found_alone_of_long hportable hlimit [] none⟩

end MarkerAtlas
