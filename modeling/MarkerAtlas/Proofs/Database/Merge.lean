import MarkerAtlas.Proofs.Database.Writes
import MarkerAtlas.Proofs.Database.Revision
import MarkerAtlas.Proofs.List.Distinct

/-!
# Imports merge rows by key

The rows of an import are put one after another, each in the place of the row with its key or at
the end. What comes of it is said without the order of the steps: of the new rows the last one
with a key stands, rows whose key no new row has stay, and no key is lost. The report counts the
keys that are new and the rows that were taken.

## What a merge is

* `IsLastOf`: the row among some rows that the others with its key give way to.
* `Merges`: rows before, rows taken, rows after, and the report, all at once.

`foldl_put` is the run over single puts for both kinds of rows; `import_merges` is the statement for
markers.
-/

namespace MarkerAtlas

section
variable {α κ : Type} [DecidableEq κ] (key : α → κ)

/-! ## Putting rows one after another -/

/-- Puts each of some rows in its place. -/
def putAll (new rows : List α) : List α := new.foldl (fun rows x => putBy key x rows) rows

/-- The keys of new rows that no row has yet, each once. -/
def newKeys (new rows : List α) : List κ :=
  (new.map key).eraseDups.filter fun k => k ∉ rows.map key

omit [DecidableEq κ] in
/-- The row is the last of some rows that has its key. -/
def IsLastOf (new : List α) (x : α) : Prop :=
  ∃ before after, new = before ++ x :: after ∧ key x ∉ after.map key

omit [DecidableEq κ] in
theorem isLastOf_cons {x y : α} {new : List α} :
    IsLastOf key (x :: new) y ↔ IsLastOf key new y ∨ (y = x ∧ key y ∉ new.map key) := by
  constructor
  · rintro ⟨before, after, hnew, hafter⟩
    cases before with
    | nil =>
      obtain ⟨rfl, rfl⟩ := List.cons.inj hnew
      exact .inr ⟨rfl, hafter⟩
    | cons z before =>
      obtain ⟨-, rfl⟩ := List.cons.inj hnew
      exact .inl ⟨before, after, rfl, hafter⟩
  · rintro (⟨before, after, rfl, hafter⟩ | ⟨rfl, hlast⟩)
    · exact ⟨x :: before, after, rfl, hafter⟩
    · exact ⟨[], new, rfl, hlast⟩

omit [DecidableEq κ] in
theorem IsLastOf.mem {x : α} {new : List α} (h : IsLastOf key new x) : x ∈ new := by
  obtain ⟨before, after, rfl, -⟩ := h
  exact List.mem_append_right before List.mem_cons_self

omit [DecidableEq κ] in
/-- Every key of some rows has a last row. -/
theorem exists_isLastOf {k : κ} {new : List α} (h : k ∈ new.map key) :
    ∃ x, IsLastOf key new x ∧ key x = k := by
  induction new with
  | nil => cases h
  | cons x new ih =>
    by_cases hk : k ∈ new.map key
    · obtain ⟨y, hy, rfl⟩ := ih hk
      exact ⟨y, (isLastOf_cons key).mpr (.inl hy), rfl⟩
    · rw [List.map_cons, List.mem_cons] at h
      obtain rfl : k = key x := h.resolve_right hk
      exact ⟨x, (isLastOf_cons key).mpr (.inr ⟨rfl, hk⟩), rfl⟩

omit [DecidableEq κ] in
/-- Where no key occurs twice every row is the last with its key. -/
theorem isLastOf_iff_mem {new : List α} (hnd : (new.map key).Nodup) {x : α} :
    IsLastOf key new x ↔ x ∈ new := by
  refine ⟨IsLastOf.mem key, fun hx => ?_⟩
  obtain ⟨y, hy, hkey⟩ := exists_isLastOf key (List.mem_map_of_mem hx)
  rwa [← List.inj_on_of_nodup_map hnd (hy.mem key) hx hkey]

theorem mem_putBy_iff {x y : α} {rows : List α} (hnd : (rows.map key).Nodup) :
    y ∈ putBy key x rows ↔ y = x ∨ (y ∈ rows ∧ key y ≠ key x) := by
  induction rows with
  | nil => simp [putBy]
  | cons z zs ih =>
    rw [List.map_cons, List.nodup_cons] at hnd
    unfold putBy
    by_cases hz : key z = key x
    · -- No row behind the replaced one has its key.
      have hzs : ∀ y ∈ zs, key y ≠ key x := fun y hy heq =>
        hnd.1 (hz ▸ heq ▸ List.mem_map_of_mem hy)
      rw [if_pos hz, List.mem_cons, List.mem_cons]
      constructor
      · rintro (rfl | hy)
        · exact .inl rfl
        · exact .inr ⟨.inr hy, hzs y hy⟩
      · rintro (rfl | ⟨rfl | hy, hne⟩)
        · exact .inl rfl
        · exact absurd hz hne
        · exact .inr hy
    · rw [if_neg hz, List.mem_cons, ih hnd.2, List.mem_cons]
      constructor
      · rintro (rfl | rfl | ⟨hy, hne⟩)
        · exact .inr ⟨.inl rfl, hz⟩
        · exact .inl rfl
        · exact .inr ⟨.inr hy, hne⟩
      · rintro (rfl | ⟨rfl | hy, hne⟩)
        · exact .inr (.inl rfl)
        · exact .inl rfl
        · exact .inr (.inr ⟨hy, hne⟩)

theorem nodup_putAll (new : List α) {rows : List α} (hnd : (rows.map key).Nodup) :
    ((putAll key new rows).map key).Nodup := by
  induction new generalizing rows with
  | nil => exact hnd
  | cons x new ih => exact ih (nodup_putBy key x hnd)

/-- Of the new rows the last with its key stands; a row whose key none of them has stays. -/
theorem mem_putAll_iff {new rows : List α} (hnd : (rows.map key).Nodup) {y : α} :
    y ∈ putAll key new rows ↔ IsLastOf key new y ∨ (y ∈ rows ∧ key y ∉ new.map key) := by
  -- By induction on the new rows, with the rows that those before have left.
  induction new generalizing rows with
  | nil =>
    constructor
    · exact fun hy => .inr ⟨hy, List.not_mem_nil⟩
    · rintro (⟨before, after, hnil, -⟩ | ⟨hy, -⟩)
      · exact absurd hnil.symm (List.append_ne_nil_of_right_ne_nil before (List.cons_ne_nil _ _))
      · exact hy
  | cons x new ih =>
    show y ∈ putAll key new (putBy key x rows) ↔ _
    rw [ih (nodup_putBy key x hnd), mem_putBy_iff key hnd, isLastOf_cons, List.map_cons,
      List.mem_cons, not_or, or_assoc]
    apply or_congr_right
    constructor
    · rintro ⟨rfl | ⟨hy, hne⟩, hlast⟩
      · exact .inl ⟨rfl, hlast⟩
      · exact .inr ⟨hy, hne, hlast⟩
    · rintro (⟨rfl, hlast⟩ | ⟨hy, hne, hlast⟩)
      · exact ⟨.inl rfl, hlast⟩
      · exact ⟨.inr ⟨hy, hne⟩, hlast⟩

/-- One more row brings a new key if its key is neither an old one nor one of those before it. -/
theorem newKeys_concat (new rows : List α) (x : α) :
    newKeys key (new ++ [x]) rows =
      if key x ∈ rows.map key ++ newKeys key new rows then newKeys key new rows
      else newKeys key new rows ++ [key x] := by
  unfold newKeys
  rw [List.map_append, List.map_singleton]
  by_cases hnew : key x ∈ new.map key
  -- The key is one of those before it: then it is old, or counted already.
  · rw [eraseDups_concat_of_mem hnew, if_pos]
    rw [List.mem_append, List.mem_filter, List.mem_eraseDups, decide_eq_true_iff]
    by_cases hrows : key x ∈ rows.map key
    · exact .inl hrows
    · exact .inr ⟨hnew, hrows⟩
  · rw [eraseDups_concat_of_notMem hnew, List.filter_append]
    have hiff : key x ∈ rows.map key ++ (new.map key).eraseDups.filter
        (fun k => k ∉ rows.map key) ↔ key x ∈ rows.map key := by
      rw [List.mem_append, List.mem_filter, List.mem_eraseDups]
      exact or_iff_left fun h => hnew h.1
    by_cases hrows : key x ∈ rows.map key
    · rw [if_pos (hiff.mpr hrows), List.filter_singleton, decide_eq_false (not_not.mpr hrows),
        cond_false, List.append_nil]
    · rw [if_neg (mt hiff.mp hrows), List.filter_singleton, decide_eq_true hrows, cond_true]

/-- Rows keep their places, and the keys that are new come behind them. -/
theorem map_key_putAll (new rows : List α) :
    (putAll key new rows).map key = rows.map key ++ newKeys key new rows := by
  induction new using List.reverseRecOn with
  | nil => exact (List.append_nil _).symm
  | append_singleton new x ih =>
    have hlast : putAll key (new ++ [x]) rows = putBy key x (putAll key new rows) := by
      rw [putAll, List.foldl_append]
      rfl
    rw [hlast, map_key_putBy, ih, newKeys_concat]
    split
    · rfl
    · rw [List.append_assoc]

theorem length_newKeys (new rows : List α) :
    (newKeys key new rows).length = ((new.map key).toFinset \ (rows.map key).toFinset).card := by
  have hnd : (newKeys key new rows).Nodup := (nodup_eraseDups _).filter _
  rw [← List.toFinset_card_of_nodup hnd]
  congr 1
  ext k
  simp [newKeys]

omit [DecidableEq κ] in
/-- Rows with the same keys in the same places are the same if each is found among the others. -/
theorem eq_of_map_key_eq {rows rows' : List α} (hkeys : rows.map key = rows'.map key)
    (hnd : (rows.map key).Nodup) (hmem : ∀ x ∈ rows, x ∈ rows') : rows = rows' := by
  refine List.ext_getElem (by simpa using congrArg List.length hkeys) fun n hn hn' => ?_
  have hplace : key rows[n] = key rows'[n] := by
    have hget := congrArg (fun ks => ks[n]?) hkeys
    simpa [hn, hn'] using hget
  exact List.inj_on_of_nodup_map (hkeys ▸ hnd) (hmem _ (List.getElem_mem hn))
    (List.getElem_mem hn') hplace

/-- Putting rows a second time changes none. -/
theorem putAll_putAll (new : List α) {rows : List α} (hnd : (rows.map key).Nodup) :
    putAll key new (putAll key new rows) = putAll key new rows := by
  have hnd' := nodup_putAll key new hnd
  -- After the first time no key is new.
  have hold : newKeys key new (putAll key new rows) = [] := by
    rw [newKeys, List.filter_eq_nil_iff]
    intro k hk
    obtain ⟨x, hx, rfl⟩ := exists_isLastOf key (List.mem_eraseDups.mp hk)
    simpa using ⟨x, (mem_putAll_iff key hnd).mpr (.inl hx), rfl⟩
  -- The keys are the same in the same order, and so are the rows under them.
  refine eq_of_map_key_eq key ?_ (nodup_putAll key new hnd') fun y hy => ?_
  · rw [map_key_putAll, hold, List.append_nil]
  · rcases (mem_putAll_iff key hnd').mp hy with hlast | ⟨hy, -⟩
    · exact (mem_putAll_iff key hnd).mpr (.inl hlast)
    · exact hy

/-- Rows whose keys are all different can be put in any order. -/
theorem putAll_perm {new new' rows : List α} (hnd : (rows.map key).Nodup)
    (hdistinct : (new.map key).Nodup) (hperm : new.Perm new') :
    (putAll key new rows).Perm (putAll key new' rows) := by
  have hdistinct' : (new'.map key).Nodup := (hperm.map key).nodup_iff.mp hdistinct
  refine (List.perm_ext_iff_of_nodup (nodup_putAll key new hnd).of_map
    (nodup_putAll key new' hnd).of_map).mpr fun x => ?_
  rw [mem_putAll_iff key hnd, mem_putAll_iff key hnd, isLastOf_iff_mem key hdistinct,
    isLastOf_iff_mem key hdistinct', hperm.mem_iff, (hperm.map key).mem_iff]

theorem length_newKeys_of_perm {new new' : List α} (hperm : new.Perm new') (rows : List α) :
    (newKeys key new rows).length = (newKeys key new' rows).length := by
  rw [length_newKeys, length_newKeys, List.toFinset_eq_of_perm _ _ (hperm.map key)]

/-! ## Merges -/

/-- What taking new rows makes of the rows there are, and how it is reported. -/
structure Merges (new rows rows' : List α) (r : ImportReport) : Prop where
  /-- No key occurs twice. -/
  keys : (rows'.map key).Nodup
  /-- Of the new rows the last with its key stands; a row whose key none of them has stays. -/
  mem : ∀ x, x ∈ rows' ↔ IsLastOf key new x ∨ (x ∈ rows ∧ key x ∉ new.map key)
  /-- No key is lost. -/
  kept : ∀ x ∈ rows, key x ∈ rows'.map key
  /-- The keys that were not there before are counted as inserted. -/
  inserted : r.inserted = ((new.map key).toFinset \ (rows.map key).toFinset).card
  /-- Every new row is counted once. -/
  total : r.inserted + r.updated = new.length

theorem merges_putAll {new rows : List α} (hnd : (rows.map key).Nodup) {r : ImportReport}
    (hinserted : r.inserted = (newKeys key new rows).length) (htotal : r.total = new.length) :
    Merges key new rows (putAll key new rows) r where
  keys := nodup_putAll key new hnd
  mem := fun _ => mem_putAll_iff key hnd
  kept := fun x hx => by
    rw [map_key_putAll]
    exact List.mem_append_left _ (List.mem_map_of_mem hx)
  inserted := hinserted.trans (length_newKeys key new rows)
  total := htotal

/-- Rows that were all there before are only updated. -/
theorem Merges.inserted_eq_zero {new rows rows' : List α} {r : ImportReport}
    (h : Merges key new rows rows' r) (hknown : ∀ x ∈ new, key x ∈ rows.map key) :
    r.inserted = 0 := by
  rw [h.inserted, Finset.card_eq_zero, Finset.sdiff_eq_empty_iff_subset]
  intro k hk
  obtain ⟨x, hx, rfl⟩ := List.mem_map.mp (List.mem_toFinset.mp hk)
  exact List.mem_toFinset.mpr (hknown x hx)

theorem Merges.mem_keys {new rows rows' : List α} {r : ImportReport}
    (h : Merges key new rows rows' r) {x : α} (hx : x ∈ new) : key x ∈ rows'.map key := by
  obtain ⟨y, hy, hkey⟩ := exists_isLastOf key (List.mem_map_of_mem hx)
  rw [← hkey]
  exact List.mem_map_of_mem ((h.mem y).mpr (.inl hy))

end

namespace Database

/-- Writing rows one after another puts each in its place, if writing one does, and counts it by
whether its key was there. The rest of the database stays as it is, so that only the rows of this
one kind are looked at. -/
theorem foldl_put {ρ κ : Type} [DecidableEq κ] (key : ρ → κ) (withRows : List ρ → Database)
    {put : Database × ImportReport → ρ → Database × ImportReport} {new : List ρ}
    (hput : ∀ rows r, ∀ x ∈ new, ∃ known, (known = true ↔ key x ∈ rows.map key) ∧
      put (withRows rows, r) x = (withRows (putBy key x rows), r.count known)) (rows : List ρ) :
    ∃ r, new.foldl put (withRows rows, ⟨0, 0⟩) = (withRows (putAll key new rows), r) ∧
      r.inserted = (newKeys key new rows).length ∧ r.total = new.length := by
  -- Induction from the end: the last row finds the keys of the rows and of the new ones before it.
  induction new using List.reverseRecOn with
  | nil => exact ⟨⟨0, 0⟩, rfl, rfl, rfl⟩
  | append_singleton new x ih =>
    obtain ⟨r, hfold, hinserted, htotal⟩ :=
      ih fun rows r y hy => hput rows r y (List.mem_append_left [x] hy)
    obtain ⟨known, hknown, hlast⟩ :=
      hput (putAll key new rows) r x (List.mem_append_right new List.mem_cons_self)
    rw [map_key_putAll] at hknown
    refine ⟨r.count known, ?_, ?_, ?_⟩
    · rw [List.foldl_append, hfold, List.foldl_cons, List.foldl_nil, hlast, putAll, putAll,
        List.foldl_append]
      rfl
    · rw [newKeys_concat, ImportReport.count]
      by_cases hx : key x ∈ rows.map key ++ newKeys key new rows
      · rw [if_pos hx, if_pos (hknown.mpr hx), hinserted]
      · rw [if_neg hx, if_neg (mt hknown.mp hx), List.length_append, List.length_singleton,
          hinserted]
    · rw [total_count, htotal, List.length_append, List.length_singleton]

/-! ## Markers -/

theorem foldl_putMarker (new : List StoredMarker) (db : Database) :
    ∃ r, new.foldl putMarker (db, ⟨0, 0⟩) =
        ({ db with markers := putAll (·.id) new db.markers }, r) ∧
      r.inserted = (newKeys (·.id) new db.markers).length ∧ r.total = new.length := by
  refine foldl_put StoredMarker.id (fun rows => { db with markers := rows })
    (fun rows r m _ => ⟨_, hasMarker_iff { db with markers := rows } m.id, ?_⟩) db.markers
  simp only [putMarker, StoredMarker.upsert_eq_putBy]

/-- An import puts its markers, leaves the flags, and reports the ids that are new. -/
theorem importMarkers_eq (db : Database) (i : MarkerImport) :
    (db.importMarkers i).1.markers = putAll (·.id) i.accepted db.markers ∧
      (db.importMarkers i).1.flags = db.flags ∧
      (db.importMarkers i).2.inserted = (newKeys (·.id) i.accepted db.markers).length ∧
      (db.importMarkers i).2.total = i.accepted.length := by
  obtain ⟨r, hfold, hinserted, htotal⟩ := foldl_putMarker i.accepted db
  obtain ⟨log, hlog⟩ := db.importMarkers_eq_foldl i
  rw [hlog, hfold]
  exact ⟨rfl, rfl, hinserted, htotal⟩

theorem merges_importMarkers {db : Database} (h : db.Canonical) (i : MarkerImport) :
    Merges (·.id) i.accepted db.markers (db.importMarkers i).1.markers (db.importMarkers i).2 := by
  obtain ⟨hmarkers, -, hinserted, htotal⟩ := db.importMarkers_eq i
  rw [hmarkers]
  exact merges_putAll _ h.ids hinserted htotal

/-- Two imports, one after the other, put what a single import of all their items puts. -/
theorem importMarkers_append (db : Database) (a b : List Json) (source : Option String) :
    ((db.importMarkers ⟨a, source⟩).1.importMarkers ⟨b, source⟩).1.markers =
        (db.importMarkers ⟨a ++ b, source⟩).1.markers ∧
      (db.importMarkers ⟨a, source⟩).2.total +
          ((db.importMarkers ⟨a, source⟩).1.importMarkers ⟨b, source⟩).2.total =
        (db.importMarkers ⟨a ++ b, source⟩).2.total := by
  have haccepted : (MarkerImport.mk (a ++ b) source).accepted =
      (MarkerImport.mk a source).accepted ++ (MarkerImport.mk b source).accepted :=
    List.filterMap_append
  obtain ⟨hfirst, -, -, htotal⟩ := db.importMarkers_eq ⟨a, source⟩
  obtain ⟨hsecond, -, -, htotal'⟩ := (db.importMarkers ⟨a, source⟩).1.importMarkers_eq ⟨b, source⟩
  obtain ⟨hboth, -, -, htotal''⟩ := db.importMarkers_eq ⟨a ++ b, source⟩
  constructor
  · rw [hsecond, hfirst, hboth, haccepted, putAll, putAll, putAll, List.foldl_append]
  · rw [htotal, htotal', htotal'', haccepted, List.length_append]

/-- An import of markers is an upsert in which the last row of an id wins, and that loses nothing:
every other marker and all flags stay as they are. The report counts the ids that were not stored
before, and all rows that were taken. Items can be split over two imports, and importing them again
changes nothing. -/
theorem Reachable.import_merges {db : Database} (hdb : Reachable db) (i : MarkerImport) :
    Merges (·.id) i.accepted db.markers (db.importMarkers i).1.markers (db.importMarkers i).2 ∧
      (db.importMarkers i).1.flags = db.flags ∧
      (∀ a b, i.items = a ++ b →
        let first := db.importMarkers ⟨a, i.defaultSource⟩
        let second := first.1.importMarkers ⟨b, i.defaultSource⟩
        second.1.markers = (db.importMarkers i).1.markers ∧
          first.2.total + second.2.total = (db.importMarkers i).2.total) ∧
      let again := (db.importMarkers i).1.importMarkers i
      again.1.markers = (db.importMarkers i).1.markers ∧ again.2.inserted = 0 := by
  have h := hdb.canonical
  have hmerges := merges_importMarkers h i
  obtain ⟨hmarkers, hflags, -⟩ := db.importMarkers_eq i
  refine ⟨hmerges, hflags, ?_, ?_, ?_⟩
  · intro a b hitems
    obtain ⟨items, source⟩ := i
    obtain rfl : items = a ++ b := hitems
    exact db.importMarkers_append a b source
  · -- Importing again puts the same rows once more, and none of their keys is new.
    obtain ⟨hagain, -⟩ := (db.importMarkers i).1.importMarkers_eq i
    rw [hagain, hmarkers, putAll_putAll _ _ h.ids]
  · exact (merges_importMarkers (h.importMarkers i) i).inserted_eq_zero _ fun m hm =>
      hmerges.mem_keys _ hm

/-- Over a stored marker with a done flag: two rows with its id and one without kind come in, the
second of them stands, and the flag stays. -/
theorem import_merges_repeated_id :
    ∃ db : Database, Reachable db ∧ db.flags.length = 1 ∧ ∃ i : MarkerImport,
      i.items.length = 3 ∧ (db.importMarkers i).2 = ⟨0, 2⟩ ∧
      (db.importMarkers i).1.markers.map (·.name) = ["Crate"] ∧
      (db.importMarkers i).1.flags = db.flags := by
  let row (name : String) : Json :=
    .obj [("id", .str " a "), ("kind", .str "CUBE"), ("map", .str "Poeta"), ("name", .str name)]
  let flag : Json := .obj [("scope", .str "ACCOUNT"), ("markerId", .str "a")]
  let db := ((empty.importMarkers ⟨[row "Chest"], none⟩).1.importProgress 5 ⟨[flag]⟩).1
  have hdb : Reachable db := .importProgress 5 _ (.importMarkers _ .empty)
  let i : MarkerImport := ⟨[row "Box", .obj [("name", .str "Jar")], row "Crate"], none⟩
  have hreport : (db.importMarkers i).2 = ⟨0, 2⟩ := by decide +kernel
  have hnames : (db.importMarkers i).1.markers.map (·.name) = ["Crate"] := by decide +kernel
  exact ⟨db, hdb, by decide +kernel, i, rfl, hreport, hnames, (hdb.import_merges i).2.1⟩

end Database

end MarkerAtlas
