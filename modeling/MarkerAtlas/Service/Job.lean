import MarkerAtlas.Database.Archive
import MarkerAtlas.Map.Codec
import MarkerAtlas.Route.Codec
import MarkerAtlas.Service.Command
import MarkerAtlas.Session.Codec

/-!
# Serving commands

The service holds a database and one session. To serve a command is a `Job`: some calls to the
database, each a transaction, then at most one section in which the job has the session to
itself. In a section the calls of the session to the database are transactions too, so that other
jobs may write to the database between them.
-/

namespace MarkerAtlas

/-- What the service holds. -/
structure Server where
  archive : Archive
  session : Session Float

/-- What is left to do for a command. -/
inductive Job where
  | respond (r : Response)
  /-- A transaction: what it makes of the database, and how its answer is taken, which is told by
  the database before it. -/
  | transact (commit : Archive → Archive) (resume : Archive → Job)
  /-- What is done with the session while no other job has it. -/
  | locked (body : Session Float → Dialogue Float (Session Float × Response))

namespace Job

/-- Calls the database, and answers with the failure if it fails. -/
def call {β : Type} (f : Archive → Archive × Answer β) (failed : StoreFailure → Response)
    (next : β → Job) : Job :=
  transact (fun a => (f a).1) fun a =>
    match (f a).2 with
    | .error why => respond (failed why)
    | .ok b => next b

/-- Answers with what is read from the database. -/
def reading (f : Archive → Answer Json) : Job :=
  call (fun a => (a, f a)) Response.ofFailure fun v => respond (.ok v)

/-- Does something with the session that always succeeds, and shows what comes of it. -/
def withSession (f : Session Float → Session Float) (shown : Session Float → Json) : Job :=
  locked fun s =>
    let s := f s
    .done (s, .ok (shown s))

/-- Lets the session talk to the database, and shows what comes of it. -/
def talk {β : Type} (f : Session Float → Dialogue Float (Session.After Float β))
    (shown : Session Float → Json) : Job :=
  locked fun s => (f s).map fun
    | (s, .error e) => (s, .ofError e)
    | (s, .ok _) => (s, .ok (shown s))

/-- Tries something on the session that needs no store, and shows what comes of it. -/
def attempt (f : Session Float → Session.After Float Unit) (shown : Session Float → Json) : Job :=
  talk (fun s => .done (f s)) shown

/-- Lists the markers of the session anew after a write that went past it, then answers. A session
without a map has nothing to list. -/
def resync (answer : Json) : Job :=
  locked fun s =>
    match s.metadata with
    | none => .done (s, .ok answer)
    | some _ => s.refresh.map fun
      | (s, .error e) => (s, .ofError e)
      | (s, .ok ()) => (s, .ok answer)

/-- Goes on if the scope's owner is named. -/
def requireOwner (scope : Scope) (characterId : Option String) (next : Job) : Job :=
  if scope = .character ∧ (characterId.bind Text.trimmed?).isNone then
    respond .characterRequired
  else next

/-- What a change of the view is answered with. -/
def changeShown (changed : Bool) (s : Session Float) : Json :=
  .obj [("changed", .bool changed), ("viewport", s.viewport.encode)]

/-- Moves the view, and shows whether it changed. -/
def changing (f : Session Float → Session Float × Bool) : Job :=
  locked fun s =>
    let (s, changed) := f s
    .done (s, .ok (changeShown changed s))

/-- The frame of a session. -/
def frameShown (s : Session Float) : Json := s.frame.encode

/-- The viewport of a session. -/
def viewportShown (s : Session Float) : Json := s.viewport.encode

/-- The route of a session. -/
def routeShown (s : Session Float) : Json := s.routeView.encode

/-- A list in JSON. -/
def listed {β : Type} (f : β → Json) (bs : List β) : Json := .arr (bs.map f)

end Job

open Job in
/-- What is to be done for a command at the time `now`. -/
def Command.job (now : Int64) : Command → Job
  | health => respond ⟨200, .text "ok"⟩
  | listMaps => reading fun a => (a.read Database.listMaps).map (listed MapMeta.encode)
  | listMarkers f =>
    requireOwner f.scope f.characterId <|
      reading fun a => (a.listMarkers f).map (listed Marker.encode)
  | setDone c =>
    requireOwner c.scope c.characterId <|
      call
        (fun a =>
          match a.setDone now c with
          | .error why => (a, .error why)
          | .ok a => (a, .ok ()))
        Response.ofWriteFailure fun () => resync (.obj [("ok", .bool true)])
  | importMarkers rows =>
    call (fun a => a.write fun db => db.importMarkers rows) Response.ofFailure fun report =>
      resync report.encode
  | backupMarkers =>
    reading fun a => (a.read Database.exportMarkers).map (listed Marker.encode)
  | backupProgress =>
    reading fun a => (a.read Database.exportProgress).map (listed ProgressRecord.encode)
  | restoreProgress rows =>
    call (fun a => a.write fun db => db.importProgress now rows) Response.ofFailure fun report =>
      resync report.encode
  | selectMap name => talk (fun s => s.selectMap (Text.trim name)) frameShown
  | setFilter f =>
    requireOwner f.scope f.characterId <| talk (fun s => s.setFilter f) frameShown
  | resize size => withSession (fun s => s.resize size) viewportShown
  | fit => attempt Session.fit viewportShown
  | zoomIn => attempt Session.zoomIn viewportShown
  | zoomOut => attempt Session.zoomOut viewportShown
  | setClustering enabled => withSession (fun s => s.setClustering enabled) frameShown
  | input event => changing fun s => s.input event
  | tick => changing Session.tick
  | frame => withSession id frameShown
  | selectMarker id => attempt (fun s => s.selectMarker id) frameShown
  | toggleMarker none => respond (.failure 400 "id is required")
  | toggleMarker (some id) => talk (fun s => s.toggleDone id) frameShown
  | zoomCluster key => attempt (fun s => s.clickCluster key) viewportShown
  | route => withSession id routeShown
  | generateRoute => attempt Session.generateRoute routeShown
  | nextStep => withSession (fun s => s.next.1) routeShown
  | prevStep => withSession (fun s => s.prev.1) routeShown
  | goToStep index => withSession (fun s => (s.goTo index).1) routeShown
  | clearRoute => withSession Session.clearRoute routeShown
  | centerRoute => withSession (fun s => s.recenter.1) routeShown

/-- Does a job to its end, at the time `now`, while no other job is at work. -/
def Job.run (now : Int64) : Job → Server → Server × Response
  | respond r, s => (s, r)
  | transact commit resume, s => (resume s.archive).run now { s with archive := commit s.archive }
  | locked body, s =>
    let (archive, session, r) := (body s.session).run (Archive.store now) s.archive
    (⟨archive, session⟩, r)

end MarkerAtlas
