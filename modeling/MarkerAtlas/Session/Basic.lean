import MarkerAtlas.Pointer.Drag
import MarkerAtlas.Route.Walk
import MarkerAtlas.Session.Error
import MarkerAtlas.Store.Dialogue
import MarkerAtlas.View.Cluster
import MarkerAtlas.View.Visibility

/-!
# Sessions

A session is one view of a map: the map that is selected, the markers that the store listed last,
what part of the map is shown, the marker that is selected as the start of a route, and the route.
Operations that need the store are dialogues; they give the session afterwards and say whether
they succeeded. An operation that cannot be done leaves the session as it was.
-/

namespace MarkerAtlas

variable {α : Type}

/-- A view of a map. -/
structure Session (α : Type) where
  settings : Settings α
  map : Option String
  metadata : Option MapMeta
  filter : MarkerFilter
  /-- The markers as they were listed last. -/
  markers : List (Marker α)
  viewport : Viewport α
  drag : DragState α
  walk : Walk α
  /-- The marker from which a route is to start. -/
  selected : Option String
  /-- What the last call to the store failed with. -/
  pageError : Option String
  /-- The map is to be fitted as soon as the screen has a size. -/
  needsFit : Bool

/-- A session after an operation, and whether the operation succeeded. -/
abbrev Session.After (α β : Type) := Session α × Except SessionError β

namespace Session

/-- The size of a map in world pixels. -/
def mapSize [Scalar α] (m : MapMeta) : Size α :=
  ⟨Scalar.ofNat m.width.toNat, Scalar.ofNat m.height.toNat⟩

section
variable [Scalar α]

/-- A session with nothing selected. -/
def new (settings : Settings α) : Session α where
  settings := settings
  map := none
  metadata := none
  filter := MarkerFilter.all
  markers := []
  viewport := Viewport.new settings.viewport
  drag := DragState.idle
  walk := Walk.empty
  selected := none
  pageError := none
  needsFit := false

/-- Why there is no metadata. -/
def lacksMap (s : Session α) : SessionError :=
  match s.map with
  | some map => .noMapMeta map
  | none => .noMapSelected

/-- The metadata of the map, which most operations need. -/
def requireMap (s : Session α) : Except SessionError MapMeta :=
  match s.metadata with
  | some m => .ok m
  | none => .error s.lacksMap

/-- The listed marker with an id; the first one if several have it. -/
def marker (s : Session α) (id : String) : Except SessionError (Marker α) :=
  match s.markers.find? (·.id == id) with
  | some m => .ok m
  | none => .error (.unknownMarker id)

/-! ## Map and markers -/

/-- The session after a call to the store that failed. -/
def failed (s : Session α) (why : StoreFailure) : Session α :=
  { s with pageError := some why.fullMessage }

/-- The session with markers listed anew: steps of the route and a selection whose markers are
gone are dropped. -/
def relisted (s : Session α) (markers : List (Marker α)) : Session α :=
  { s with
    markers := markers
    pageError := none
    walk := s.walk.retainKnown markers
    selected := s.selected.filter (Walk.knows markers) }

/-- Lists the markers anew. -/
def refresh (s : Session α) : Dialogue α (After α Unit) :=
  match s.requireMap with
  | .error e => .done (s, .error e)
  | .ok _ =>
    .listMarkers s.filter fun
      | .error why => .done (s.failed why, .error (.store why))
      | .ok markers => .done (s.relisted markers, .ok ())

/-- The session with another map and nothing else of the map before. -/
def cleared (s : Session α) (map : String) : Session α :=
  { s with
    map := some map
    metadata := none
    filter := { s.filter with map := some map }
    markers := []
    viewport := s.viewport.reset
    drag := DragState.idle
    walk := Walk.empty
    selected := none
    pageError := none
    needsFit := false }

/-- Shows the whole map. -/
def fitted (s : Session α) (m : MapMeta) : Session α :=
  { s with viewport := s.viewport.fit s.viewport.size (mapSize m) }

/-- Shows the whole map, now or as soon as the screen has a size. -/
def fittedOrDue (s : Session α) (m : MapMeta) : Session α :=
  if s.viewport.size.isEmpty then { s with needsFit := true } else s.fitted m

/-- Goes to another map and lists its markers. -/
def selectMap (s : Session α) (map : String) : Dialogue α (After α Unit) :=
  let s := s.cleared map
  .listMaps fun
    | .error why => .done (s.failed why, .error (.store why))
    | .ok maps =>
      match maps.find? (·.name == map) with
      | none =>
        let e := SessionError.noMapMeta map
        .done ({ s with pageError := some e.message }, .error e)
      | some m =>
        ({ s with metadata := some m } : Session α).refresh.map fun
          | (s, .error e) => (s, .error e)
          | (s, .ok ()) => (s.fittedOrDue m, .ok ())

/-- Sets the filter, except for its map, which is the one that is selected, and lists the markers
anew. -/
def setFilter (s : Session α) (f : MarkerFilter) : Dialogue α (After α Unit) :=
  let s := { s with filter := { f with map := s.map } }
  match s.map with
  | none => .done (s, .ok ())
  | some _ => s.refresh

/-! ## Done flags -/

/-- Sets or clears the done flag of a listed marker, and lists the markers anew. -/
def setDone (s : Session α) (id : String) (done : Bool) : Dialogue α (After α Unit) :=
  match s.marker id with
  | .error e => .done (s, .error e)
  | .ok _ =>
    .setDone ⟨s.filter.scope, s.filter.characterId, id, done⟩ fun
      | .error why => .done (s.failed why, .error (.store why))
      | .ok () => s.refresh

/-- Turns the done flag of a listed marker around, and says what it is then. -/
def toggleDone (s : Session α) (id : String) : Dialogue α (After α Bool) :=
  match s.marker id with
  | .error e => .done (s, .error e)
  | .ok m =>
    (s.setDone id (!m.done)).map fun
      | (s, .error e) => (s, .error e)
      | (s, .ok ()) => (s, .ok (!m.done))

/-! ## The viewport -/

/-- Sets the size of the screen; the first one with room in it fits the map. -/
def resize (s : Session α) (size : Size α) : Session α :=
  let s := { s with viewport := s.viewport.setSize size }
  if s.needsFit && !s.viewport.size.isEmpty then
    match s.metadata with
    | none => s
    | some m => { s.fitted m with needsFit := false }
  else s

/-- Shows another part of the map. Without a map there is nothing to show. -/
def showing (s : Session α) (part : MapMeta → Viewport α) : After α Unit :=
  match s.requireMap with
  | .error e => (s, .error e)
  | .ok m => ({ s with viewport := part m }, .ok ())

/-- Shows the whole map. -/
def fit (s : Session α) : After α Unit :=
  s.showing fun m => s.viewport.fit s.viewport.size (mapSize m)

/-- Zooms in by one step. -/
def zoomIn (s : Session α) : After α Unit := s.showing fun _ => s.viewport.zoomIn

/-- Zooms out by one step. -/
def zoomOut (s : Session α) : After α Unit := s.showing fun _ => s.viewport.zoomOut

/-- Takes up an event on the drawing surface. Says whether the view changed or a tick is due.
Without a map there is nothing to move. -/
def input (s : Session α) (event : InputEvent α) : Session α × Bool :=
  if s.metadata.isNone then (s, false)
  else
    let (drag, viewport, changed) := s.drag.handle s.viewport event
    ({ s with drag := drag, viewport := viewport }, changed)

/-- Applies what was dragged since the last frame. Says whether there was something. -/
def tick (s : Session α) : Session α × Bool :=
  let (drag, viewport, changed) := s.drag.tick s.viewport
  ({ s with drag := drag, viewport := viewport }, changed)

/-! ## Clusters -/

/-- Draws clusters from now on, or every marker by itself. -/
def setClustering (s : Session α) (enabled : Bool) : Session α :=
  { s with
    settings := { s.settings with cluster := { s.settings.cluster with enabled := enabled } } }

/-- The visible markers. -/
def visible (s : Session α) : List (Marker α) :=
  s.viewport.visible s.settings.cull.padding s.markers

/-- The visible markers as they are drawn, and whether they were clustered. -/
def clustering (s : Session α) : Bool × Clustering α :=
  s.settings.cluster.derive s.viewport s.visible

/-- Zooms into a cluster that is drawn. -/
def clickCluster (s : Session α) (key : String) : After α Unit :=
  match CellKey.ofText? key with
  | none => (s, .error (.unknownCluster key))
  | some cell =>
    match s.clustering.2.clusters.find? (·.key = cell) with
    | none => (s, .error (.unknownCluster key))
    | some c =>
      let factor := s.settings.viewport.clusterZoom
      ({ s with viewport := s.viewport.centerOnAtScale c.centroid factor }, .ok ())

/-! ## Selection and route -/

/-- Selects a marker with a position as the start of a route, or none. -/
def selectMarker (s : Session α) (id : Option String) : After α Unit :=
  match id with
  | none => ({ s with selected := none }, .ok ())
  | some id =>
    match s.marker id with
    | .error e => (s, .error e)
    | .ok m =>
      if m.isPlaced then ({ s with selected := some id }, .ok ())
      else (s, .error (.missingCoordinates id))

/-- The marker that is selected, if it is listed. -/
def selectedMarker (s : Session α) : Option (Marker α) :=
  s.selected.bind fun id => s.markers.find? (·.id == id)

/-- Makes a route from the selected marker through all that is left to visit. -/
def generateRoute (s : Session α) : After α Unit :=
  match s.requireMap with
  | .error e => (s, .error e)
  | .ok _ =>
    let (walk, viewport, made) :=
      s.walk.generate s.settings.route s.selectedMarker s.markers s.viewport
    ({ s with walk := walk, viewport := viewport }, made.mapError .ofRoute)

/-- Goes to the next step of the route. Says whether there is one. -/
def next (s : Session α) : Session α × Bool :=
  let (walk, viewport, moved) := s.walk.next s.markers s.viewport
  ({ s with walk := walk, viewport := viewport }, moved)

/-- Goes to the step before. Says whether there is one. -/
def prev (s : Session α) : Session α × Bool :=
  let (walk, viewport, moved) := s.walk.prev s.markers s.viewport
  ({ s with walk := walk, viewport := viewport }, moved)

/-- Goes to a step of the route. Says whether the route has it. -/
def goTo (s : Session α) (index : Nat) : Session α × Bool :=
  let (walk, viewport, moved) := s.walk.goTo index s.markers s.viewport
  ({ s with walk := walk, viewport := viewport }, moved)

/-- Moves the current step to the middle of the screen. Says whether it lies somewhere. -/
def recenter (s : Session α) : Session α × Bool :=
  let (viewport, moved) := s.walk.recenter s.markers s.viewport
  ({ s with viewport := viewport }, moved)

/-- Forgets the route. -/
def clearRoute (s : Session α) : Session α := { s with walk := Walk.empty }

/-- The route as it is shown. -/
def routeView (s : Session α) : RouteView α := s.walk.view s.markers

end

end Session

end MarkerAtlas
