import MarkerAtlas.Database.Basic
import MarkerAtlas.Database.Condition
import MarkerAtlas.Database.Pattern
import MarkerAtlas.Map.Catalog
import MarkerAtlas.Store.Failure

/-!
# Reading the database

Listings show markers with the flags of one owner; exports show all that is stored, for backups.
-/

namespace MarkerAtlas

namespace StoredMarker

/-- `wanted IS NULL OR map = wanted`. -/
def onMap (wanted : Option String) (m : StoredMarker) : Condition :=
  (Condition.isNull wanted).or (.equal (some m.map) wanted)

/-- `wanted IS NULL OR kind = wanted`. Kinds are stored by name. -/
def ofKind (wanted : Option MarkerKind) (m : StoredMarker) : Condition :=
  let wanted := wanted.map MarkerKind.name
  (Condition.isNull wanted).or (.equal (some m.kind.name) wanted)

/-- `wanted IS NULL OR faction IS NULL OR faction = 'BOTH' OR faction = wanted`. Factions are stored
by name. -/
def ofFaction (wanted : Option Faction) (m : StoredMarker) : Condition :=
  let wanted := wanted.map Faction.name
  let faction := m.faction.map Faction.name
  (((Condition.isNull wanted).or (.isNull faction)).or (.equal faction (some "BOTH"))).or
    (.equal faction wanted)

/-- Does a query for a filter take the row of a marker by its map, its kind and its faction? -/
def meets (f : MarkerFilter) (m : StoredMarker) : Bool :=
  (m.onMap f.map).holds && (m.ofKind f.kind).holds && (m.ofFaction f.faction).holds

end StoredMarker

/-- Is the search text, if there is one, found in the marker's name, region or map? -/
def StoredMarker.found (wanted : Option String) (m : StoredMarker) : Bool :=
  wanted.all fun text =>
    let pattern := Pattern.containing text.toList
    Pattern.admits pattern m.name.toList || m.region.any (fun r => Pattern.admits pattern r.toList)
      || Pattern.admits pattern m.map.toList

namespace DoneFlag

/-- The flag as a backup keeps it: the account has no character. -/
def record (f : DoneFlag) : ProgressRecord where
  scope := f.owner.scope
  characterId := if f.owner.scope = .character then some f.owner.name else none
  markerId := f.markerId
  doneAtMs := f.doneAtMs

/-- Does the first flag come no later in backups? The account's flags come first, then those of
the characters by name, the flags of an owner by marker. -/
def comesBefore (a b : DoneFlag) : Bool :=
  if a.owner.scope ≠ b.owner.scope then decide (a.owner.scope = .account)
  else if a.owner.name ≠ b.owner.name then decide (a.owner.name < b.owner.name)
  else decide (a.markerId ≤ b.markerId)

end DoneFlag

namespace Database

/-- The markers that a query for a filter takes, with the flags of an owner, in the order of
listings. A marker that has the owner's flag is not taken where only what remains is asked for. -/
def listFor (db : Database) (owner : Owner) (f : MarkerFilter) : List (Marker Float) :=
  let taken := db.sortedMarkers.filter fun m =>
    m.meets f && m.found f.searchText && (!f.onlyRemaining || !db.isDone owner m.id)
  taken.map fun m => m.toMarker (db.isDone owner m.id)

/-- The markers that a filter asks for, with the flags of its owner. -/
def listMarkers (db : Database) (f : MarkerFilter) : Except StoreFailure (List (Marker Float)) :=
  match Owner.of? f.scope f.characterId with
  | none => .error .noCharacter
  | some owner => .ok (db.listFor owner f)

/-- Every marker, in the order of listings. -/
def exportMarkers (db : Database) : List (Marker Float) :=
  db.sortedMarkers.map (·.toMarker false)

/-- Every done flag, in the order of backups. -/
def exportProgress (db : Database) : List ProgressRecord :=
  (db.flags.mergeSort DoneFlag.comesBefore).map (·.record)

/-- The greatest coordinate; zero stands for one that is missing. -/
def greatest (coordinates : List (Option Float)) : Float :=
  match coordinates.map (·.getD 0) with
  | [] => 0
  | x :: xs => xs.foldl Double.greater x

/-- The names of the maps that have markers. -/
def mapNames (db : Database) : List String := (db.markers.map (·.map)).eraseDups

/-- The metadata of a map: from the catalog, or from the markers on it. -/
def mapMeta (db : Database) (name : String) : MapMeta :=
  let markers := db.markers.filter (·.map == name)
  Catalog.metaFor name (greatest (markers.map (·.x))) (greatest (markers.map (·.y)))

/-- The metadata of every map that has markers, in the order of the catalog. -/
def listMaps (db : Database) : List MapMeta := MapMeta.sort (db.mapNames.map db.mapMeta)

end Database

end MarkerAtlas
