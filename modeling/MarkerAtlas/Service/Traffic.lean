import MarkerAtlas.Service.Router

/-!
# Serving many requests at once

Requests arrive while others are being served. What they do falls into steps: a call to the
database is one step, and to take the session and to leave it are steps as well. While one request
has the session, no other takes it, but the others may call the database in between. Which request
does the next step is not up to the service.
-/

namespace MarkerAtlas

/-! ## The session between two calls -/

namespace Dialogue

variable {α β : Type}

/-- The session that is left if all calls to come fail. -/
def leftByFailing : Dialogue α (Session α × β) → Session α
  | done r => r.1
  | listMaps k => (k (.error .unavailable)).leftByFailing
  | listMarkers _ k => (k (.error .unavailable)).leftByFailing
  | setDone _ k => (k (.error .unavailable)).leftByFailing

/-- The session as it stands while the next call is made: what a request has done to the session by
then is what is left if the call fails, but for the message of the failure. What a request does
after its last call is done when it leaves the session. -/
def standing (before : Session α) : Dialogue α (Session α × β) → Session α
  | done _ => before
  | d => d.leftByFailing

end Dialogue

/-- What a request still does while it has the session to itself. -/
structure Section where
  /-- The session as it stands. -/
  session : Session Float
  /-- The last call has listed markers, which the session does not show yet. -/
  listed : Bool
  rest : Dialogue Float (Session Float × Response)

/-- A section that goes on in some way, from a session as it stood before. -/
def Section.goingOn (before : Session Float) (listed : Bool)
    (rest : Dialogue Float (Session Float × Response)) : Section :=
  ⟨rest.standing before, listed, rest⟩

/-- Is the next step, or the one after it, to list markers and to show them? -/
def Section.relists (c : Section) : Bool :=
  c.listed || match c.rest with
    | .listMarkers _ _ => true
    | _ => false

/-! ## Traffic -/

/-- What the service holds while it serves requests. -/
structure Traffic where
  archive : Archive
  /-- The session as it was when a request left it last. -/
  session : Session Float
  /-- What is left to do for the requests that do not have the session. -/
  waiting : List Job
  /-- The request that has the session. -/
  active : Option Section
  /-- The responses so far, in order. -/
  responses : List Response

/-- A step of the service. -/
inductive Turn where
  /-- A request arrives. -/
  | arrive (now : Int64) (r : Request)
  /-- The request at this place among those that do not have the session does its next step. -/
  | proceed (place : Nat)
  /-- The request that has the session does its next step. -/
  | goOn (now : Int64)

/-- What is to be done for a request, in advance or not. -/
def Request.task (now : Int64) (r : Request) : Job :=
  if r.method = .options then .respond r.advanceReply.response else r.job now

namespace Traffic

/-- A server that serves nobody. -/
def ofServer (s : Server) : Traffic := ⟨s.archive, s.session, [], none, []⟩

/-- The session as it stands. -/
def current (t : Traffic) : Session Float :=
  match t.active with
  | none => t.session
  | some c => c.session

/-- The next step of the request at a place among those that do not have the session. It waits if it
needs the session and another has it. -/
def proceed (t : Traffic) (place : Nat) : Traffic :=
  match t.waiting[place]? with
  | none => t
  | some (.respond r) =>
    { t with waiting := t.waiting.eraseIdx place, responses := t.responses ++ [r] }
  | some (.transact commit resume) =>
    { t with archive := commit t.archive, waiting := t.waiting.set place (resume t.archive) }
  | some (.locked body) =>
    match t.active with
    | some _ => t
    | none =>
      { t with
        waiting := t.waiting.eraseIdx place
        active := some (.goingOn t.session false (body t.session)) }

/-- The next step of the request that has the session, at the time `now`. -/
def goOn (now : Int64) (t : Traffic) : Traffic :=
  match t.active with
  | none => t
  | some c =>
    match c.rest with
    | .done (s, r) => { t with session := s, active := none, responses := t.responses ++ [r] }
    | .listMaps k =>
      { t with
        active := some (.goingOn c.session false (k ((Archive.store now).maps t.archive))) }
    | .listMarkers f k =>
      { t with
        active := some (.goingOn c.session true (k ((Archive.store now).markers t.archive f))) }
    | .setDone command k =>
      match (Archive.store now).setDone t.archive command with
      | .error why => { t with active := some (.goingOn c.session false (k (.error why))) }
      | .ok a => { t with archive := a, active := some (.goingOn c.session false (k (.ok ()))) }

/-- One step. -/
def step (t : Traffic) : Turn → Traffic
  | .arrive now r => { t with waiting := t.waiting ++ [r.task now] }
  | .proceed place => t.proceed place
  | .goOn now => t.goOn now

/-- Some steps, one after another. -/
def run (t : Traffic) (turns : List Turn) : Traffic := turns.foldl step t

end Traffic

/-- A job that waits for the session, and begins by listing the markers if the session has a map. -/
def Job.Relists : Job → Prop
  | .respond _ => False
  | .transact _ _ => False
  | .locked body => ∀ s : Session Float, s.metadata.isSome = true →
      (Section.goingOn s false (body s)).relists = true

end MarkerAtlas
