import MarkerAtlas.Proofs.Database.Canonical
import MarkerAtlas.Proofs.Database.Condition
import MarkerAtlas.Proofs.Store.Answers

/-!
# What writes keep

A database grows from an empty one by imports of markers, imports of progress and single flags.
Each of these keeps its rows canonical, its keys apart and its flags on markers that are stored,
and so every listing shows what its filter asks for and nothing twice.
-/

namespace MarkerAtlas.Database

/-! ## The invariant -/

/-- Every row is canonical, no key occurs twice, and every flag is on a marker that is stored. -/
structure Canonical (db : Database) : Prop where
  ids : (db.markers.map (·.id)).Nodup
  markers : ∀ m ∈ db.markers, m.Canonical
  keys : (db.flags.map DoneFlag.key).Nodup
  owners : ∀ f ∈ db.flags, f.owner.Canonical
  stored : ∀ f ∈ db.flags, db.hasMarker f.markerId = true

theorem canonical_empty : empty.Canonical where
  ids := List.nodup_nil
  markers := fun m hm => by cases hm
  keys := List.nodup_nil
  owners := fun f hf => by cases hf
  stored := fun f hf => by cases hf

/-- What is logged plays no part. -/
theorem Canonical.withLog {db : Database} (h : db.Canonical) (log : List LogEntry) :
    ({ db with log := log } : Database).Canonical :=
  ⟨h.ids, h.markers, h.keys, h.owners, h.stored⟩

/-- Putting a marker never makes another one unknown. -/
theorem hasMarker_putMarker {db : Database} {r : ImportReport} {m : StoredMarker} {id : String}
    (h : db.hasMarker id = true) : (putMarker (db, r) m).1.hasMarker id = true := by
  rw [hasMarker_iff] at h ⊢
  show id ∈ (m.upsert db.markers).map (·.id)
  rw [StoredMarker.upsert_eq_putBy, mem_keys_putBy]
  exact .inr h

theorem Canonical.putMarker {db : Database} (h : db.Canonical) (r : ImportReport)
    {m : StoredMarker} (hm : m.Canonical) : (putMarker (db, r) m).1.Canonical where
  ids := by
    show ((m.upsert db.markers).map (·.id)).Nodup
    rw [StoredMarker.upsert_eq_putBy]
    exact nodup_putBy _ m h.ids
  markers := by
    intro n hn
    replace hn : n ∈ m.upsert db.markers := hn
    rw [StoredMarker.upsert_eq_putBy] at hn
    rcases mem_putBy _ hn with rfl | hn
    · exact hm
    · exact h.markers n hn
  keys := h.keys
  owners := h.owners
  stored := fun f hf => hasMarker_putMarker (h.stored f hf)

/-- A flag is only put on a marker that is stored. -/
theorem Canonical.putFlag {db : Database} (h : db.Canonical) (r : ImportReport) {f : DoneFlag}
    (howner : f.owner.Canonical) : (putFlag (db, r) f).1.Canonical := by
  unfold Database.putFlag
  by_cases hstored : db.hasMarker f.markerId = true
  · rw [if_pos hstored]
    have hmem : ∀ g ∈ f.upsert db.flags, g = f ∨ g ∈ db.flags := by
      intro g hg
      rw [DoneFlag.upsert_eq_putBy] at hg
      exact mem_putBy _ hg
    refine ⟨h.ids, h.markers, ?_, ?_, ?_⟩
    · show ((f.upsert db.flags).map DoneFlag.key).Nodup
      rw [DoneFlag.upsert_eq_putBy]
      exact nodup_putBy _ f h.keys
    · intro g hg
      rcases hmem g hg with rfl | hg
      · exact howner
      · exact h.owners g hg
    · intro g hg
      rcases hmem g hg with rfl | hg
      · exact hstored
      · exact h.stored g hg
  · rw [if_neg hstored]
    exact h

/-! ## Writes -/

/-- An import writes its rows one after another; apart from that it only adds to the log. -/
theorem importMarkers_eq_foldl (db : Database) (i : MarkerImport) :
    ∃ log, db.importMarkers i =
      ({ (i.accepted.foldl Database.putMarker (db, ⟨0, 0⟩)).1 with log := log },
        (i.accepted.foldl Database.putMarker (db, ⟨0, 0⟩)).2) := by
  simp only [Database.importMarkers]
  split
  · exact ⟨_, rfl⟩
  · exact ⟨(i.accepted.foldl Database.putMarker (db, ⟨0, 0⟩)).1.log, rfl⟩

theorem importProgress_eq_foldl (db : Database) (now : Int64) (i : ProgressImport) :
    ∃ log, db.importProgress now i =
      ({ ((i.rows.filterMap (DoneFlag.ofRow? now)).foldl Database.putFlag (db, ⟨0, 0⟩)).1 with
          log := log },
        ((i.rows.filterMap (DoneFlag.ofRow? now)).foldl Database.putFlag (db, ⟨0, 0⟩)).2) := by
  simp only [Database.importProgress]
  split
  · exact ⟨_, rfl⟩
  · exact
      ⟨((i.rows.filterMap (DoneFlag.ofRow? now)).foldl Database.putFlag (db, ⟨0, 0⟩)).1.log, rfl⟩

/-- An empty database stores all markers of an import whose texts are taken as they are, if their
ids are different, and counts them as inserted. -/
theorem importMarkers_of_importable {markers : List (Marker Float)}
    (h : ∀ m ∈ markers, m.Importable) (hids : (markers.map (·.id)).Nodup)
    (defaultSource : Option String) :
    ∃ log, empty.importMarkers ⟨markers.map Marker.encode, defaultSource⟩ =
      (⟨markers.map Marker.stored, [], log⟩, ⟨markers.length, 0⟩) := by
  let i : MarkerImport := ⟨markers.map Marker.encode, defaultSource⟩
  have haccepted : i.accepted = markers.map Marker.stored := by
    rw [MarkerImport.accepted, List.filterMap_map, ← List.filterMap_eq_map]
    exact List.filterMap_congr fun m hm => (h m hm).ofRow?_encode _
  have hnew : ((empty.markers ++ markers.map Marker.stored).map (·.id)).Nodup := by
    rw [show empty.markers = [] from rfl, List.nil_append, List.map_map]
    exact hids
  have hfold := foldl_putMarker_of_new _ empty ⟨0, 0⟩ hnew
  obtain ⟨log, hlog⟩ := empty.importMarkers_eq_foldl i
  refine ⟨log, ?_⟩
  rw [hlog, haccepted, hfold]
  simp [empty]

theorem Canonical.importMarkers {db : Database} (h : db.Canonical) (i : MarkerImport) :
    (db.importMarkers i).1.Canonical := by
  have hrows : ∀ m ∈ i.accepted, m.Canonical := by
    intro m hm
    obtain ⟨row, -, hrow⟩ := List.mem_filterMap.mp hm
    exact StoredMarker.canonical_of_ofRow? i.trimmed?_source hrow
  have hfold : (i.accepted.foldl Database.putMarker (db, ⟨0, 0⟩)).1.Canonical := by
    apply List.foldlRecOn (motive := fun state : Database × ImportReport => state.1.Canonical)
    · exact h
    · intro state hstate m hm
      exact hstate.putMarker state.2 (hrows m hm)
  obtain ⟨log, hlog⟩ := db.importMarkers_eq_foldl i
  rw [hlog]
  exact hfold.withLog log

theorem Canonical.importProgress {db : Database} (h : db.Canonical) (now : Int64)
    (i : ProgressImport) : (db.importProgress now i).1.Canonical := by
  have hrows : ∀ f ∈ i.rows.filterMap (DoneFlag.ofRow? now), f.owner.Canonical := by
    intro f hf
    obtain ⟨row, -, hrow⟩ := List.mem_filterMap.mp hf
    exact DoneFlag.owner_canonical_of_ofRow? hrow
  have hfold : ((i.rows.filterMap (DoneFlag.ofRow? now)).foldl Database.putFlag
      (db, ⟨0, 0⟩)).1.Canonical := by
    apply List.foldlRecOn (motive := fun state : Database × ImportReport => state.1.Canonical)
    · exact h
    · intro state hstate f hf
      exact hstate.putFlag state.2 (hrows f hf)
  obtain ⟨log, hlog⟩ := db.importProgress_eq_foldl now i
  rw [hlog]
  exact hfold.withLog log

theorem Canonical.setDone {db db' : Database} (h : db.Canonical) {now : Int64} {c : SetDone}
    (hset : db.setDone now c = .ok db') : db'.Canonical := by
  unfold Database.setDone at hset
  cases howner : Owner.of? c.scope c.characterId with
  | none =>
    rw [howner] at hset
    cases hset
  | some owner =>
    rw [howner] at hset
    by_cases hknown : db.hasMarker c.markerId = true
    · by_cases hsame : db.isDone owner c.markerId = c.done
      · simp only [hknown, hsame, Bool.not_true, Bool.false_eq_true, if_false, if_true] at hset
        cases hset
        exact h
      · simp only [hknown, hsame, Bool.not_true, Bool.false_eq_true, if_false] at hset
        cases hset
        cases hdone : c.done with
        | false =>
          -- Clearing a flag leaves a part of the flags.
          have hsub : (db.flags.filter fun f => !f.isFor owner c.markerId).Sublist db.flags :=
            List.filter_sublist
          exact ⟨h.ids, h.markers, h.keys.sublist (hsub.map _),
            fun f hf => h.owners f (hsub.subset hf), fun f hf => h.stored f (hsub.subset hf)⟩
        | true =>
          -- Setting one adds a flag whose key is new.
          have hnew : (owner, c.markerId) ∉ db.flags.map DoneFlag.key := by
            rw [← isDone_iff]
            intro hset
            exact hsame (hset.trans hdone.symm)
          refine ⟨h.ids, h.markers, ?_, ?_, ?_⟩
          · show ((db.flags ++ [DoneFlag.mk owner c.markerId now]).map DoneFlag.key).Nodup
            rw [List.map_append]
            exact h.keys.append (List.nodup_singleton _) (by simpa [DoneFlag.key] using hnew)
          · intro f hf
            rcases List.mem_append.mp hf with hf | hf
            · exact h.owners f hf
            · obtain rfl := List.mem_singleton.mp hf
              exact Owner.canonical_of_of? howner
          · intro f hf
            rcases List.mem_append.mp hf with hf | hf
            · exact h.stored f hf
            · obtain rfl := List.mem_singleton.mp hf
              exact hknown
    · simp only [hknown, Bool.not_false, if_true] at hset
      cases hset

/-- The databases that grow from an empty one by writes. One that fails changes nothing. -/
inductive Reachable : Database → Prop
  | empty : Reachable .empty
  | importMarkers {db : Database} (i : MarkerImport) (hdb : Reachable db) :
    Reachable (db.importMarkers i).1
  | importProgress {db : Database} (now : Int64) (i : ProgressImport) (hdb : Reachable db) :
    Reachable (db.importProgress now i).1
  | setDone {db db' : Database} (now : Int64) (c : SetDone) (hdb : Reachable db)
    (hset : db.setDone now c = .ok db') : Reachable db'

theorem Reachable.canonical {db : Database} (h : Reachable db) : db.Canonical := by
  induction h with
  | empty => exact canonical_empty
  | importMarkers i hdb ih => exact ih.importMarkers i
  | importProgress now i hdb ih => exact ih.importProgress now i
  | setDone now c hdb hset ih => exact ih.setDone hset

/-! ## Listings -/

theorem mem_sortedMarkers {db : Database} {m : StoredMarker} :
    m ∈ db.sortedMarkers ↔ m ∈ db.markers := List.mem_mergeSort

theorem sortedMarkers_perm (db : Database) : db.sortedMarkers.Perm db.markers :=
  List.mergeSort_perm _ _

theorem Canonical.nodup_sortedMarkers {db : Database} (h : db.Canonical) :
    (db.sortedMarkers.map (·.id)).Nodup :=
  (db.sortedMarkers_perm.map _).nodup_iff.mpr h.ids

/-- A database lists faithfully. -/
theorem Canonical.faithful {db : Database} (h : db.Canonical) {f : MarkerFilter}
    {ms : List (Marker Float)} (hms : db.listMarkers f = .ok ms) : f.Faithful ms := by
  unfold listMarkers at hms
  cases howner : Owner.of? f.scope f.characterId with
  | none =>
    rw [howner] at hms
    cases hms
  | some owner =>
    rw [howner] at hms
    obtain rfl : db.listFor owner f = ms := Except.ok.inj hms
    refine ⟨?_, ?_⟩
    · -- The ids that are listed are some of those that are stored, in the order of listings.
      have hids : ((db.listFor owner f).map (·.id)).Sublist (db.sortedMarkers.map (·.id)) := by
        rw [listFor, List.map_map]
        exact List.filter_sublist.map _
      exact h.nodup_sortedMarkers.sublist hids
    · intro map hmap m hm
      obtain ⟨s, -, hmeets, -, -, rfl⟩ := mem_listFor_iff.mp hm
      exact ((s.meets_iff f).mp hmeets).1 map hmap

end MarkerAtlas.Database
