import MarkerAtlas.Service.Origin
import MarkerAtlas.Service.Job

/-!
# The service

Only peers on the machine and in the private network are served. Every answer tells the browser
whether the page that asked may read it; a browser that asks in advance is told what is allowed,
whoever it is.
-/

namespace MarkerAtlas

/-- A response with what it tells the browser. -/
structure Reply where
  response : Response
  allowOrigin : Option String
  allowMethods : Option String
  allowHeaders : Option String

namespace Request

/-- What is to be done for a request at the time `now`. -/
def job (now : Int64) (r : Request) : Job :=
  if !r.peer.isAllowed then .respond (.failure 403 "forbidden")
  else
    match Endpoint.find r.method r.path with
    | none => .respond (.failure 404 "")
    | some none => .respond (.failure 405 "")
    | some (some endpoint) =>
      match endpoint.read r with
      | .error why => .respond (.refused why)
      | .ok command => command.job now

/-- The origin of the page that asked, if it may read the answer. -/
def allowedOrigin (r : Request) : Option String := r.origin.filter Origin.isLocal

/-- A response as it is sent: who asked for the head only gets no body. -/
def sent (r : Request) (response : Response) : Response :=
  if r.method = .head then { response with body := .text "" } else response

/-- A reply to a request other than one in advance. -/
def reply (r : Request) (response : Response) : Reply :=
  ⟨r.sent response, r.allowedOrigin, none, none⟩

/-- What a browser that asks in advance is told. -/
def advanceReply (r : Request) : Reply :=
  ⟨.failure 200 "", r.allowedOrigin, some "GET,POST", some "content-type"⟩

end Request

namespace Server

/-- A server with nothing done yet. -/
def new (settings : Settings Float) (archive : Archive) : Server := ⟨archive, Session.new settings⟩

/-- Handles a request at the time `now`, while no other is handled. -/
def handle (now : Int64) (s : Server) (r : Request) : Server × Reply :=
  if r.method = .options then (s, r.advanceReply)
  else
    let (s, response) := (r.job now).run now s
    (s, r.reply response)

end Server

end MarkerAtlas
