import MarkerAtlas.Marker.Basic
import MarkerAtlas.Json.Basic

/-!
# Progress

The done flags of an account or of one of its characters: the command that sets one, the record
that a backup keeps of it, and what is handed over for an import.
-/

namespace MarkerAtlas

/-- The command to set or to clear a done flag. -/
structure SetDone where
  scope : Scope
  characterId : Option String
  markerId : String
  done : Bool
  deriving DecidableEq

/-- A done flag as a backup keeps it. -/
structure ProgressRecord where
  scope : Scope
  characterId : Option String
  markerId : String
  doneAtMs : Int64
  deriving DecidableEq

/-- Marker rows of any shape, and the source of those that name none. -/
structure MarkerImport where
  items : List Json
  defaultSource : Option String

/-- Progress rows of any shape. -/
structure ProgressImport where
  rows : List Json

/-- How many rows an import took, new ones and known ones. -/
structure ImportReport where
  inserted : Nat
  updated : Nat
  deriving DecidableEq

/-- The number of rows taken. -/
def ImportReport.total (r : ImportReport) : Nat := r.inserted + r.updated

/-- The character's name under which progress is kept: none for the account's, and the trimmed
id for a character's, which must not be blank. -/
def Scope.owner? (scope : Scope) (characterId : Option String) : Option String :=
  match scope with
  | .account => some ""
  | .character => characterId.bind Text.trimmed?

end MarkerAtlas
