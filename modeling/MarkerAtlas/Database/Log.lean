import MarkerAtlas.Database.Basic
import MarkerAtlas.Progress.Codec
import MarkerAtlas.Json.Writer

/-!
# The log as it is kept

Each entry of the log has a number, a kind, the marker it is about, and a payload in JSON.
-/

namespace MarkerAtlas

namespace LogEntry

/-- The kind of an entry. -/
def kind : LogEntry → String
  | flagChanged c => if c.done then "marker.done" else "marker.undone"
  | markersImported _ => "markers.imported"
  | progressImported _ => "progress.imported"

/-- The marker that an entry is about, if it is about a single one. -/
def markerId? : LogEntry → Option String
  | flagChanged c => some c.markerId
  | _ => none

/-- What an entry says, its members sorted by name. -/
def payload : LogEntry → Json
  | flagChanged c =>
    .obj [("characterId", Json.ofOption .str c.characterId), ("markerId", .str c.markerId),
      ("scope", .str c.scope.name)]
  | markersImported r => r.encode
  | progressImported r => r.encode

end LogEntry

/-- The entries of the log with their numbers, in order. -/
def Database.numberedLog (db : Database) : List (Nat × LogEntry) :=
  db.log.zipIdx.map fun (e, i) => (i + 1, e)

end MarkerAtlas
