import MarkerAtlas.Json.Reader
import MarkerAtlas.Pointer.Codec
import MarkerAtlas.Progress.Codec
import MarkerAtlas.Service.Form
import MarkerAtlas.Service.MediaType
import MarkerAtlas.Service.Message

/-!
# Commands

A request that names an endpoint is read into a command. Where an endpoint takes input, it takes
it as JSON in the body, which has to be announced as such; the listing of markers takes its
filter from the query.
-/

namespace MarkerAtlas

/-- What a request asks the service to do. -/
inductive Command where
  | health
  | listMaps
  | listMarkers (filter : MarkerFilter)
  | setDone (command : SetDone)
  | importMarkers (rows : MarkerImport)
  | backupMarkers
  | backupProgress
  | restoreProgress (rows : ProgressImport)
  | selectMap (name : String)
  | setFilter (filter : MarkerFilter)
  | resize (size : Size Float)
  | fit
  | zoomIn
  | zoomOut
  | setClustering (enabled : Bool)
  | input (event : InputEvent Float)
  | tick
  | frame
  | selectMarker (id : Option String)
  | toggleMarker (id : Option String)
  | zoomCluster (key : String)
  | route
  | generateRoute
  | nextStep
  | prevStep
  | goToStep (index : Nat)
  | clearRoute
  | centerRoute

/-- A path that takes requests of one method, and how a request to it is read. -/
structure Endpoint where
  method : Method
  path : String
  read : Request → Except Refusal Command

namespace Endpoint

/-- Reads the body of a request. How long a body may be is not asked: a server in front that refuses
bodies above some size (with status 413, say above two megabytes) does so before anything of the
request is looked at, and answers for itself. -/
def readBody {β : Type} (f : Decoder β) (r : Request) : Except Refusal β :=
  if (r.contentType.bind MediaType.ofText?).any (·.isJson) then
    let doc := Json.Document.read r.body
    match Decoder.ofText f doc.draft doc.complete with
    | .ok v => .ok v
    | .error .malformed => .error .malformed
    | .error .mismatch => .error .mismatch
  else .error .notJson

/-- Reads the filter in the query of a request. -/
def readFilter (r : Request) : Except Refusal MarkerFilter :=
  match MarkerFilter.ofFields? (Form.fields (r.query.getD "")) with
  | some f => .ok f
  | none => .error .badQuery

/-- An endpoint that takes no input and is asked. -/
def ask (path : String) (command : Command) : Endpoint := ⟨.get, path, fun _ => .ok command⟩

/-- An endpoint that takes no input and is told. -/
def tell (path : String) (command : Command) : Endpoint := ⟨.post, path, fun _ => .ok command⟩

/-- An endpoint that is told something. -/
def take {β : Type} (path : String) (f : Decoder β) (command : β → Command) : Endpoint :=
  ⟨.post, path, fun r => (readBody f r).map command⟩

/-- The size of the drawing surface. -/
def sizeRecord : Record (Size Float) :=
  Size.mk <$> Record.required "width" Decoder.float <*> Record.required "height" Decoder.float

/-- A record of one field that must be there. -/
def one {β : Type} (name : String) (f : Decoder β) : Decoder β := (Record.required name f).decode

/-- A record of a marker's id, which may be missing. -/
def optionalId : Decoder (Option String) := (Record.optional "id" Decoder.text).decode

/-- All endpoints. -/
def all : List Endpoint :=
  [ask "/health" .health,
   ask "/api/maps" .listMaps,
   ⟨.get, "/api/markers", fun r => (readFilter r).map .listMarkers⟩,
   take "/api/markers/done" SetDone.record.decode .setDone,
   take "/api/markers/import" MarkerImport.record.decode .importMarkers,
   ask "/api/backup/markers" .backupMarkers,
   ask "/api/backup/progress" .backupProgress,
   take "/api/backup/progress" ProgressImport.record.decode .restoreProgress,
   take "/api/map/select" (one "map" Decoder.text) .selectMap,
   take "/api/map/filter" MarkerFilter.record.decode .setFilter,
   take "/api/map/resize" sizeRecord.decode .resize,
   tell "/api/map/fit" .fit,
   tell "/api/map/zoom-in" .zoomIn,
   tell "/api/map/zoom-out" .zoomOut,
   take "/api/map/clustering" (one "enabled" Decoder.bool) .setClustering,
   take "/api/map/input" InputEvent.decode .input,
   tell "/api/map/tick" .tick,
   ask "/api/map/frame" .frame,
   take "/api/map/marker/select" optionalId .selectMarker,
   take "/api/map/marker/toggle" optionalId .toggleMarker,
   take "/api/map/cluster/zoom" (one "key" Decoder.text) .zoomCluster,
   ask "/api/route" .route,
   tell "/api/route/generate" .generateRoute,
   tell "/api/route/next" .nextStep,
   tell "/api/route/prev" .prevStep,
   take "/api/route/goto" (one "index" Decoder.index) .goToStep,
   tell "/api/route/clear" .clearRoute,
   tell "/api/route/center" .centerRoute]

/-- The method that an endpoint has to take for a request: who asks for the head of an answer
asks the same endpoint. -/
def servedAs : Method → Method
  | .head => .get
  | m => m

/-- The endpoint that a request names: none if there is no such path, and an endpoint missing
under a known path if it does not take the method. -/
def find (method : Method) (path : String) : Option (Option Endpoint) :=
  match all.filter (·.path == path) with
  | [] => none
  | here => some (here.find? (·.method = servedAs method))

end Endpoint

end MarkerAtlas
