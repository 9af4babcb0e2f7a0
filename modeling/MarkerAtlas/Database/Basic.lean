import MarkerAtlas.Progress.Basic
import MarkerAtlas.Marker.Filter
import MarkerAtlas.Scalar.Double

/-!
# The database

The database holds one row per marker, one per done flag, and a log of what changed. It grows by
three kinds of writes (imports of markers, imports of progress, and single flags), each of which
is one transaction and logs itself when it changed something. The number of log entries is the
revision.
-/

namespace MarkerAtlas

/-- A marker as it is stored: without a done flag, which belongs to an owner. -/
structure StoredMarker where
  id : String
  kind : MarkerKind
  faction : Option Faction
  map : String
  region : Option String
  name : String
  note : Option String
  x : Option Float
  y : Option Float
  source : Option String

/-- Whose flags: the account's, whose owner has the empty name, or those of a character. -/
structure Owner where
  scope : Scope
  name : String
  deriving DecidableEq

/-- The owner that a scope and the id of a character name; a character's id must not be blank. -/
def Owner.of? (scope : Scope) (characterId : Option String) : Option Owner :=
  (scope.owner? characterId).map fun name => ⟨scope, name⟩

/-- A done flag, and since when it is set. -/
structure DoneFlag where
  owner : Owner
  markerId : String
  doneAtMs : Int64
  deriving DecidableEq

/-- What the log says of a write. -/
inductive LogEntry where
  | flagChanged (command : SetDone)
  | markersImported (report : ImportReport)
  | progressImported (report : ImportReport)
  deriving DecidableEq

/-- The contents of the database. -/
structure Database where
  markers : List StoredMarker
  flags : List DoneFlag
  log : List LogEntry

namespace StoredMarker

/-- The marker with a done flag. -/
def toMarker (m : StoredMarker) (done : Bool) : Marker Float :=
  ⟨m.id, m.kind, m.faction, m.map, m.region, m.name, m.note, m.x, m.y, m.source, done⟩

/-- Does the first marker come no later in listings? They are ordered by map, region, name and
id, each by code points; no region counts as an empty one. -/
def comesBefore (a b : StoredMarker) : Bool :=
  let regionA := a.region.getD ""
  let regionB := b.region.getD ""
  if a.map ≠ b.map then decide (a.map < b.map)
  else if regionA ≠ regionB then decide (regionA < regionB)
  else if a.name ≠ b.name then decide (a.name < b.name)
  else decide (a.id ≤ b.id)

end StoredMarker

namespace Database

/-- A database without rows. -/
def empty : Database := ⟨[], [], []⟩

/-- The number of the last log entry: entries are numbered from one. -/
def revision (db : Database) : Nat := db.log.length

/-- The markers in the order of listings. -/
def sortedMarkers (db : Database) : List StoredMarker :=
  db.markers.mergeSort StoredMarker.comesBefore

/-- Is there a marker with this id? -/
def hasMarker (db : Database) (id : String) : Bool := db.markers.any (·.id == id)

/-- Is the owner's flag on a marker set? -/
def isDone (db : Database) (owner : Owner) (id : String) : Bool :=
  db.flags.any fun f => f.owner = owner && f.markerId == id

end Database

end MarkerAtlas
