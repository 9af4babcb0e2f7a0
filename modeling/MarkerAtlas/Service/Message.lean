import MarkerAtlas.Json.Basic
import MarkerAtlas.Service.Address
import MarkerAtlas.Session.Error

/-!
# Requests and responses
-/

namespace MarkerAtlas

/-- What a request wants done with what its path names. -/
inductive Method where
  | get
  | head
  | post
  | options
  | other
  deriving DecidableEq

/-- The method of a name. -/
def Method.ofName (s : String) : Method :=
  if s = "GET" then .get
  else if s = "HEAD" then .head
  else if s = "POST" then .post
  else if s = "OPTIONS" then .options
  else .other

/-- A request as it arrives. -/
structure Request where
  method : Method
  path : String
  query : Option String
  contentType : Option String
  body : String
  peer : Address
  origin : Option String

/-- Why the input of a request cannot be read. -/
inductive Refusal where
  /-- The body is not said to be JSON. -/
  | notJson
  /-- The body is not JSON. -/
  | malformed
  /-- The body is JSON of another shape. -/
  | mismatch
  /-- The fields of the query are not those that are asked for. -/
  | badQuery
  deriving DecidableEq

/-- What a response holds. -/
inductive Body where
  | text (s : String)
  | json (v : Json)
  | refusal (why : Refusal)

/-- A response to a request. -/
structure Response where
  status : Nat
  body : Body

namespace Response

/-- A response that holds a value. -/
def ok (v : Json) : Response := ⟨200, .json v⟩

/-- A response that says what is wrong. -/
def failure (status : Nat) (message : String) : Response := ⟨status, .text message⟩

/-- A response to input that cannot be read. -/
def refused (why : Refusal) : Response :=
  let status :=
    match why with
    | .notJson => 415
    | .malformed => 400
    | .mismatch => 422
    | .badQuery => 400
  ⟨status, .refusal why⟩

/-- A response to what the session could not do. -/
def ofError (e : SessionError) : Response :=
  let status :=
    match e with
    | .noMapMeta _ => 404
    | .unknownMarker _ => 404
    | .unknownCluster _ => 404
    | .noMapSelected => 409
    | .noStartSelected => 409
    | .tooManyCandidates _ => 400
    | .missingCoordinates _ => 400
    | .store _ => 500
  failure status e.message

/-- A response to a call that the database did not answer. -/
def ofFailure (why : StoreFailure) : Response := failure 500 why.fullMessage

/-- A response to a write to a marker: one that is not there is the fault of the request. -/
def ofWriteFailure (why : StoreFailure) : Response :=
  match why with
  | .unknownMarker _ => failure 404 why.message
  | _ => ofFailure why

/-- A response to progress of a character asked for without saying of which. -/
def characterRequired : Response := failure 400 "character scope requires characterId"

end Response

end MarkerAtlas
