import MarkerAtlas.Database.Basic
import MarkerAtlas.Digest.Sha256
import MarkerAtlas.Json.Writer
import MarkerAtlas.Progress.Codec

/-!
# Importing markers

Markers are imported from rows of any shape. A row with a kind, a map and a name is taken; the
rest of it may be missing or of the wrong kind. A row without an id gets one that is made from
what identifies the marker, so that the same row updates the same marker later.
-/

namespace MarkerAtlas

namespace Json

/-- The text of a member, as it stands. -/
def memberText? (name : String) (row : Json) : Option String := (row.member? name).bind text?

/-- The text of a member without the blanks around it, if anything is left. -/
def memberTrimmed? (name : String) (row : Json) : Option String :=
  (row.memberText? name).bind Text.trimmed?

/-- The number in a member. -/
def memberFloat? (name : String) (row : Json) : Option Float := (row.member? name).bind float?

end Json

/-- What identifies a marker that has no id. -/
structure MarkerIdentity where
  kind : MarkerKind
  map : String
  name : String
  region : Option String
  x : Option Float
  y : Option Float
  faction : Option Faction

namespace MarkerIdentity

/-- The identity as a JSON value. -/
def encode (i : MarkerIdentity) : Json :=
  .obj [("kind", .str i.kind.name), ("map", .str i.map), ("name", .str i.name),
    ("region", Json.ofOption .str i.region), ("x", Json.ofOption Json.float i.x),
    ("y", Json.ofOption Json.float i.y),
    ("faction", Json.ofOption (fun f => .str f.name) i.faction)]

/-- How derived ids begin. -/
def idPrefix : String := "import:"

/-- How many hexadecimal digits a derived id has. -/
def idDigits : Nat := 24

/-- The id of a marker with this identity: the start of the digest of its text. -/
def id (i : MarkerIdentity) : String :=
  idPrefix ++ String.ofList ((Sha256.hexDigest i.encode.render).take idDigits)

end MarkerIdentity

namespace StoredMarker

/-- A coordinate as it is stored: zero loses its sign. -/
def storedCoordinate (x : Option Float) : Option Float := x.map Scalar.plainZero

/-- The marker that a row describes, if it has a kind, a map and a name. -/
def ofRow? (defaultSource : String) (row : Json) : Option StoredMarker := do
  let kind ← (row.memberText? "kind").bind MarkerKind.ofName?
  let map ← row.memberTrimmed? "map"
  let name ← row.memberTrimmed? "name"
  let region := row.memberText? "region"
  let x := row.memberFloat? "x"
  let y := row.memberFloat? "y"
  let faction := (row.memberText? "faction").bind Faction.normalize
  some {
    id := (row.memberTrimmed? "id").getD
      (MarkerIdentity.id ⟨kind, map, name, region, x, y, faction⟩)
    kind := kind
    faction := faction
    map := map
    region := region
    name := name
    note := row.memberText? "note"
    x := storedCoordinate x
    y := storedCoordinate y
    source := some ((row.memberTrimmed? "source").getD defaultSource) }

/-- Puts a marker in the place of the one with its id, or at the end. -/
def upsert (m : StoredMarker) : List StoredMarker → List StoredMarker
  | [] => [m]
  | n :: ns => if n.id = m.id then m :: ns else n :: upsert m ns

end StoredMarker

/-- The report with one more row, of a marker or flag that was known before or not. -/
def ImportReport.count (r : ImportReport) (known : Bool) : ImportReport :=
  if known then { r with updated := r.updated + 1 } else { r with inserted := r.inserted + 1 }

/-- The source of markers when an import names none. -/
def MarkerImport.source (i : MarkerImport) : String :=
  (i.defaultSource.bind Text.trimmed?).getD "import"

/-- The markers that an import holds. -/
def MarkerImport.accepted (i : MarkerImport) : List StoredMarker :=
  i.items.filterMap (StoredMarker.ofRow? i.source)

namespace Database

/-- Stores a marker and counts it. -/
def putMarker (state : Database × ImportReport) (m : StoredMarker) : Database × ImportReport :=
  ({ state.1 with markers := m.upsert state.1.markers },
    state.2.count (state.1.hasMarker m.id))

/-- Imports markers: new ones are added, known ones replaced. -/
def importMarkers (db : Database) (i : MarkerImport) : Database × ImportReport :=
  let (db, report) := i.accepted.foldl putMarker (db, ⟨0, 0⟩)
  (if report.total > 0 then { db with log := db.log ++ [.markersImported report] } else db, report)

end Database

end MarkerAtlas
