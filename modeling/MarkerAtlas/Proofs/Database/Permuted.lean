import MarkerAtlas.Proofs.Database.Order
import MarkerAtlas.Proofs.Database.Rows
import MarkerAtlas.Proofs.List.Distinct
import MarkerAtlas.Proofs.Scalar.Order

/-!
# The order of rows does not matter

A database keeps its rows in the order in which they were written. No answer depends on it: lists
are sorted by keys that no two rows share, flags are looked up, and the size of a map is that of
its greatest coordinates.
-/

namespace MarkerAtlas

/-! ## Rows -/

/-- Both coordinates are stored without the sign of a zero. -/
structure StoredMarker.Plain (m : StoredMarker) : Prop where
  x : Double.Plain (m.x.getD 0)
  y : Double.Plain (m.y.getD 0)

namespace Database

/-- Two databases hold the same rows, with no key twice, in some order each. -/
structure SameRows (db db' : Database) : Prop where
  markers : db.markers.Perm db'.markers
  flags : db.flags.Perm db'.flags
  ids : (db.markers.map (·.id)).Nodup
  keys : (db.flags.map DoneFlag.key).Nodup
  plain : ∀ m ∈ db.markers, m.Plain

variable {db db' : Database}

/-! ## Listings -/

/-- Markers with different ids are listed in one order. -/
theorem sortedMarkers_eq_of_perm (hids : (db.markers.map (·.id)).Nodup)
    (hmarkers : db.markers.Perm db'.markers) : db.sortedMarkers = db'.sortedMarkers := by
  refine StoredMarker.sortsBy_sortKey.mergeSort_eq_of_perm (fun a ha b hb hkey => ?_) hmarkers
  exact List.inj_on_of_nodup_map hids ha hb (StoredMarker.id_eq_of_sortKey_eq hkey)

/-- A listing depends on the sorted markers and on which flags the filter's owner has. -/
theorem listMarkers_congr {f : MarkerFilter} (hsorted : db.sortedMarkers = db'.sortedMarkers)
    (hdone : ∀ owner, Owner.of? f.scope f.characterId = some owner →
      ∀ id, db.isDone owner id = db'.isDone owner id) :
    db.listMarkers f = db'.listMarkers f := by
  unfold listMarkers
  cases howner : Owner.of? f.scope f.characterId with
  | none => rfl
  | some owner => simp only [listFor, hsorted, hdone owner howner]

section
variable (h : SameRows db db')
include h

theorem SameRows.sortedMarkers_eq : db.sortedMarkers = db'.sortedMarkers :=
  sortedMarkers_eq_of_perm h.ids h.markers

theorem SameRows.isDone_eq (owner : Owner) (id : String) :
    db.isDone owner id = db'.isDone owner id := by
  rw [Bool.eq_iff_iff, isDone_iff, isDone_iff]
  exact (h.flags.map DoneFlag.key).mem_iff

theorem SameRows.listMarkers_eq (f : MarkerFilter) : db.listMarkers f = db'.listMarkers f :=
  listMarkers_congr h.sortedMarkers_eq fun owner _ => h.isDone_eq owner

theorem SameRows.exportMarkers_eq : db.exportMarkers = db'.exportMarkers := by
  rw [exportMarkers, exportMarkers, h.sortedMarkers_eq]

theorem SameRows.exportProgress_eq : db.exportProgress = db'.exportProgress := by
  unfold exportProgress
  rw [DoneFlag.sortsBy_sortKey.mergeSort_eq_of_perm (fun a ha b hb hkey => ?_) h.flags]
  obtain ⟨howner, hid⟩ := DoneFlag.eq_of_sortKey_eq hkey
  exact List.inj_on_of_nodup_map h.keys ha hb (Prod.ext howner hid)

/-! ## Maps -/

omit h in
@[simp] theorem mapMeta_name (db : Database) (name : String) : (db.mapMeta name).name = name := by
  unfold mapMeta Catalog.metaFor
  cases hfind : Catalog.find? name with
  | none => rfl
  | some m =>
    have hname : m.name = name := by simpa using List.find?_some hfind
    exact hname

omit h in
/-- The greatest of some coordinates does not depend on their order. -/
theorem greatest_perm {xs ys : List (Option Float)} (hplain : ∀ x ∈ xs, Double.Plain (x.getD 0))
    (hperm : xs.Perm ys) : greatest xs = greatest ys := by
  have hvalues : (xs.map (·.getD 0)).Perm (ys.map (·.getD 0)) := hperm.map _
  have hvalues_plain : ∀ v ∈ xs.map (·.getD 0), Double.Plain v := by
    intro v hv
    obtain ⟨x, hx, rfl⟩ := List.mem_map.mp hv
    exact hplain x hx
  unfold greatest
  -- From here on only the values matter, with 0 for what is missing.
  generalize xs.map (·.getD 0) = vs at *
  generalize ys.map (·.getD 0) = ws at *
  cases vs with
  | nil =>
    obtain rfl : ws = [] := hvalues.nil_eq.symm
    rfl
  | cons v vs =>
    cases ws with
    | nil => exact absurd hvalues.symm.nil_eq (by simp)
    | cons w ws => exact Double.foldl_greater_perm hvalues_plain hvalues

theorem SameRows.mapMeta_eq (name : String) : db.mapMeta name = db'.mapMeta name := by
  have hon : (db.markers.filter (·.map == name)).Perm (db'.markers.filter (·.map == name)) :=
    h.markers.filter _
  have hplain : ∀ m ∈ db.markers.filter (·.map == name), m.Plain := fun m hm =>
    h.plain m (List.mem_filter.mp hm).1
  have hx : greatest ((db.markers.filter (·.map == name)).map (·.x)) =
      greatest ((db'.markers.filter (·.map == name)).map (·.x)) := by
    refine greatest_perm (fun x hx => ?_) (hon.map _)
    obtain ⟨m, hm, rfl⟩ := List.mem_map.mp hx
    exact (hplain m hm).x
  have hy : greatest ((db.markers.filter (·.map == name)).map (·.y)) =
      greatest ((db'.markers.filter (·.map == name)).map (·.y)) := by
    refine greatest_perm (fun y hy => ?_) (hon.map _)
    obtain ⟨m, hm, rfl⟩ := List.mem_map.mp hy
    exact (hplain m hm).y
  simp only [mapMeta, hx, hy]

theorem SameRows.listMaps_eq : db.listMaps = db'.listMaps := by
  have hnames : db.mapNames.Perm db'.mapNames := eraseDups_perm (h.markers.map _)
  have hmeta : db.mapMeta = db'.mapMeta := funext h.mapMeta_eq
  unfold listMaps MapMeta.sort
  rw [← hmeta]
  refine MapMeta.sortsBy_sortKey.mergeSort_eq_of_perm (fun a ha b hb hkey => ?_) (hnames.map _)
  obtain ⟨n, -, rfl⟩ := List.mem_map.mp ha
  obtain ⟨n', -, rfl⟩ := List.mem_map.mp hb
  -- Each name has one map, and the key holds the name.
  have hname := MapMeta.name_eq_of_sortKey_eq hkey
  rw [mapMeta_name, mapMeta_name] at hname
  rw [hname]

end

end Database

end MarkerAtlas
