/-!
# Failures of stores

Why a store did not answer. A failure has a message, and some have a cause of their own that is
told after it.
-/

namespace MarkerAtlas

/-- Why a store did not answer. -/
inductive StoreFailure where
  /-- The store cannot be read. -/
  | unavailable
  /-- The store cannot be written. -/
  | readOnly
  /-- The progress of a character was asked for, without saying of which. -/
  | noCharacter
  /-- The store in memory has no such marker. -/
  | notListed (id : String)
  /-- The database has no such marker. -/
  | unknownMarker (id : String)
  /-- The directory of the database cannot be made. -/
  | noDirectory (path cause : String)
  deriving DecidableEq

namespace StoreFailure

/-- What failed. -/
def message : StoreFailure → String
  | unavailable => "store is unavailable"
  | readOnly => "store is read-only"
  | noCharacter => "character scope requires a character id"
  | notListed id => "unknown marker " ++ id
  | unknownMarker id => "unknown marker: " ++ id
  | noDirectory path _ => "create db dir: " ++ path

/-- Why it failed, if there is more to say. -/
def cause? : StoreFailure → Option String
  | noDirectory _ cause => some cause
  | _ => none

/-- What failed and why. -/
def fullMessage (f : StoreFailure) : String :=
  match f.cause? with
  | none => f.message
  | some cause => f.message ++ ": " ++ cause

end StoreFailure

end MarkerAtlas
