import MarkerAtlas.Database.Import
import MarkerAtlas.Store.Failure

/-!
# Writing done flags

A flag is set or cleared by a command, and restored from the rows of a backup. A command that
changes nothing is not logged.
-/

namespace MarkerAtlas

namespace DoneFlag

/-- Is this the owner's flag on the marker? -/
def isFor (owner : Owner) (markerId : String) (f : DoneFlag) : Bool :=
  f.owner = owner && f.markerId == markerId

/-- The flag that a row of a backup describes. A row without a time has the time of the import;
one that says that its marker is not done describes no flag. -/
def ofRow? (now : Int64) (row : Json) : Option DoneFlag := do
  let scope ← (row.memberText? "scope").bind Scope.ofName?
  let markerId ← row.memberTrimmed? "markerId"
  if ((row.member? "done").bind Json.bool?) = some false then none
  let owner ← Owner.of? scope (row.memberText? "characterId")
  some ⟨owner, markerId, ((row.member? "doneAtMs").bind Json.int64?).getD now⟩

/-- Puts a flag in the place of the one for the same owner and marker, or at the end. -/
def upsert (f : DoneFlag) : List DoneFlag → List DoneFlag
  | [] => [f]
  | g :: gs => if g.isFor f.owner f.markerId then f :: gs else g :: upsert f gs

end DoneFlag

namespace Database

/-- Sets or clears a done flag at the time `now`. -/
def setDone (db : Database) (now : Int64) (c : SetDone) : Except StoreFailure Database :=
  match Owner.of? c.scope c.characterId with
  | none => .error .noCharacter
  | some owner =>
    if !db.hasMarker c.markerId then .error (.unknownMarker c.markerId)
    else if db.isDone owner c.markerId = c.done then .ok db
    else
      let flags :=
        if c.done then db.flags ++ [⟨owner, c.markerId, now⟩]
        else db.flags.filter fun f => !f.isFor owner c.markerId
      .ok { db with flags := flags, log := db.log ++ [.flagChanged c] }

/-- Restores a flag and counts it, if its marker is there. -/
def putFlag (state : Database × ImportReport) (f : DoneFlag) : Database × ImportReport :=
  if state.1.hasMarker f.markerId then
    ({ state.1 with flags := f.upsert state.1.flags },
      state.2.count (state.1.isDone f.owner f.markerId))
  else state

/-- Restores flags from a backup at the time `now`; flags that the backup does not have stay. -/
def importProgress (db : Database) (now : Int64) (i : ProgressImport) : Database × ImportReport :=
  let (db, report) := (i.rows.filterMap (DoneFlag.ofRow? now)).foldl putFlag (db, ⟨0, 0⟩)
  (if report.total > 0 then { db with log := db.log ++ [.progressImported report] } else db, report)

end Database

end MarkerAtlas
