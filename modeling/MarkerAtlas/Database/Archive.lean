import MarkerAtlas.Database.Listing
import MarkerAtlas.Database.Progress
import MarkerAtlas.Store.Dialogue

/-!
# A database that may not open

The database lies in a file, which may be impossible to open. Then every call that has to open it
fails, and nothing is written. What a call asks of its arguments is checked before it opens the
database.
-/

namespace MarkerAtlas

/-- A database, or why it cannot be opened. -/
inductive Archive where
  | opened (db : Database)
  | closed (why : StoreFailure)

namespace Archive

/-- Reads from the database. -/
def read {β : Type} (a : Archive) (f : Database → β) : Answer β :=
  match a with
  | opened db => .ok (f db)
  | closed why => .error why

/-- Writes to the database. -/
def write {β : Type} (a : Archive) (f : Database → Database × β) : Archive × Answer β :=
  match a with
  | opened db =>
    let (db, b) := f db
    (opened db, .ok b)
  | closed why => (closed why, .error why)

/-- The markers that a filter asks for, with the flags of its owner. -/
def listMarkers (a : Archive) (f : MarkerFilter) : Answer (List (Marker Float)) :=
  match a, Owner.of? f.scope f.characterId with
  | _, none => .error .noCharacter
  | opened db, some _ => db.listMarkers f
  | closed why, some _ => .error why

/-- Sets or clears a done flag at the time `now`. -/
def setDone (now : Int64) (a : Archive) (c : SetDone) : Answer Archive :=
  match a, Owner.of? c.scope c.characterId with
  | _, none => .error .noCharacter
  | opened db, some _ => (db.setDone now c).map opened
  | closed why, some _ => .error why

/-- The archive as a store at the time `now`. -/
def store (now : Int64) : Store Archive Float where
  maps a := a.read Database.listMaps
  markers := listMarkers
  setDone := setDone now

end Archive

end MarkerAtlas
