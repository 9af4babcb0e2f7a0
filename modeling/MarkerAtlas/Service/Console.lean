import MarkerAtlas.Json.Writer
import MarkerAtlas.Service.Router

/-!
# Requests by line

The service can be used from a terminal: a line holds the method, the path with its query, and the
body, each after a space. Such requests come from the machine itself, and a body is JSON.
-/

namespace MarkerAtlas

/-- The text up to the first space, and the text after it. -/
def Console.splitWord (cs : List Char) : List Char × List Char :=
  (cs.takeWhile (· ≠ ' '), (cs.dropWhile (· ≠ ' ')).drop 1)

/-- The request that a line holds. -/
def Request.ofLine (line : String) : Request :=
  let (method, rest) := Console.splitWord line.toList
  let (target, body) := Console.splitWord rest
  let query := target.dropWhile (· ≠ '?')
  { method := Method.ofName (String.ofList method)
    path := String.ofList (target.takeWhile (· ≠ '?'))
    query := if query.isEmpty then none else some (String.ofList (query.drop 1))
    contentType := if body.isEmpty then none else some "application/json"
    body := String.ofList body
    peer := .v4 127 0 0 1
    origin := none }

/-- What is said of input that cannot be read. -/
def Refusal.message : Refusal → String
  | .notJson => "the body has to be JSON"
  | .malformed => "the body is not JSON"
  | .mismatch => "the body has another shape"
  | .badQuery => "the query cannot be read"

/-- The text of a body. -/
def Body.render : Body → String
  | .text s => s
  | .json v => v.render
  | .refusal why => why.message

/-- The line that a response is written as: its status, a space, and its body. -/
def Response.line (r : Response) : String := toString r.status ++ " " ++ r.body.render

end MarkerAtlas
