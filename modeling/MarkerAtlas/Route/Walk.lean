import MarkerAtlas.Route.Plan
import MarkerAtlas.View.Viewport
import MarkerAtlas.Marker.Label

/-!
# Walking along a route

A walk is a route and the step of it that the player is at. Every step that is taken moves its
marker to the middle of the screen. When the markers of the map change, steps whose markers are
gone leave the route.
-/

namespace MarkerAtlas

variable {α : Type}

/-- A route, the index of the current step, and what there is to say about the route. -/
structure Walk (α : Type) where
  route : Option (Route α)
  current : Nat
  notice : Option String

/-- A step of a route as it is shown. -/
structure RouteStep (α : Type) where
  index : Nat
  id : String
  name : String
  map : String
  region : Option String
  position : Point α
  done : Bool

/-- A route as it is shown. -/
structure RouteView (α : Type) where
  startId : Option String
  fixedStart : Bool
  steps : List (RouteStep α)
  currentIndex : Option Nat
  totalDistance : Option α
  notice : Option String

/-- Why no route could be made. -/
inductive RouteError where
  | noStart
  | noPosition (id : String)
  | tooMany (fault : TooManyCandidates)
  deriving DecidableEq

namespace Walk

/-- No route. -/
def empty : Walk α := ⟨none, 0, none⟩

/-- What is said of a route to nowhere. -/
def nothingLeft : String := "no undone markers on this map"

/-- The ids of the steps. -/
def order (w : Walk α) : List String := (w.route.map (·.order)).getD []

/-- The index of the current step, if there are steps. -/
def currentIndex (w : Walk α) : Option Nat := if w.order.isEmpty then none else some w.current

/-- The marker of the current step. -/
def currentId (w : Walk α) : Option String := w.order[w.current]?

variable [Scalar α]

/-- Where the marker with an id lies; the first one if several have it. -/
def positionOf (markers : List (Marker α)) (id : String) : Option (Point α) :=
  (markers.find? (·.id == id)).bind (·.position)

/-- Moves the marker of the current step to the middle of the screen. Says whether it lies
somewhere. -/
def recenter (w : Walk α) (markers : List (Marker α)) (v : Viewport α) : Viewport α × Bool :=
  match w.currentId.bind (positionOf markers) with
  | none => (v, false)
  | some p => (v.centerOn p, true)

/-- Goes to a step. Says whether the route has it. -/
def goTo (w : Walk α) (index : Nat) (markers : List (Marker α)) (v : Viewport α) :
    Walk α × Viewport α × Bool :=
  if index < w.order.length then
    let w := { w with current := index }
    (w, (w.recenter markers v).1, true)
  else (w, v, false)

/-- Goes to the next step. Says whether there is one. -/
def next (w : Walk α) (markers : List (Marker α)) (v : Viewport α) : Walk α × Viewport α × Bool :=
  w.goTo (w.current + 1) markers v

/-- Goes to the step before. Says whether there is one. -/
def prev (w : Walk α) (markers : List (Marker α)) (v : Viewport α) : Walk α × Viewport α × Bool :=
  if w.current = 0 then (w, v, false) else w.goTo (w.current - 1) markers v

/-- Makes a route from a marker through all that is left to visit, and goes to its first step.
Where nothing is left the route is empty and says so. Says why no route could be made; then the
walk and the view are those there were. -/
def generate (w : Walk α) (settings : RouteSettings) (start : Option (Marker α))
    (markers : List (Marker α)) (v : Viewport α) : Walk α × Viewport α × Except RouteError Unit :=
  match start with
  | none => (w, v, .error .noStart)
  | some m =>
    match m.position with
    | none => (w, v, .error (.noPosition m.id))
    | some origin =>
      match RoutePoint.candidates markers with
      | [] =>
        let route : Route α := ⟨origin, some m.id, [], false, 0⟩
        ({ w with route := some route, current := 0, notice := some nothingLeft }, v, .ok ())
      | points =>
        match settings.plan Point.distance (some m.id) origin points with
        | .error fault => (w, v, .error (.tooMany fault))
        | .ok route =>
          let w := { w with route := some route, current := 0, notice := none }
          (w, (w.recenter markers v).1, .ok ())

/-- Is there a marker with this id and a position? -/
def knows (markers : List (Marker α)) (id : String) : Bool :=
  markers.any fun m => m.isPlaced && m.id == id

/-- The route without the steps whose markers are gone or have no position any more. The start
stays fixed only as long as the route begins with it. -/
def pruned (markers : List (Marker α)) (r : Route α) : Route α :=
  let order := r.order.filter (knows markers)
  { r with
    order := order
    fixedStart :=
      if order.length = r.order.length then r.fixedStart
      else r.fixedStart && order.head? == r.startId }

/-- Takes the steps whose markers are gone out of the route; the current step stays in range. -/
def retainKnown (w : Walk α) (markers : List (Marker α)) : Walk α :=
  match w.route with
  | none => w
  | some r =>
    let r := pruned markers r
    { w with route := some r, current := min w.current (r.order.length - 1) }

/-- The marker with an id; the last one if several have it. -/
def lastMarker (markers : List (Marker α)) (id : String) : Option (Marker α) :=
  markers.foldl (fun found m => if m.id = id then some m else found) none

/-- A step as it is shown, if its marker lies somewhere. -/
def stepView (markers : List (Marker α)) (id : String) (index : Nat) : Option (RouteStep α) := do
  let m ← lastMarker markers id
  let p ← m.position
  some ⟨index, m.id, m.label, m.map, m.region, p, m.done⟩

/-- The steps of a route as they are shown. -/
def stepViews (markers : List (Marker α)) (r : Route α) : List (RouteStep α) :=
  r.order.zipIdx.filterMap fun (id, index) => stepView markers id index

/-- The route as it is shown, its length measured on what is shown. -/
def view (w : Walk α) (markers : List (Marker α)) : RouteView α :=
  match w.route with
  | none => ⟨none, false, [], none, none, w.notice⟩
  | some r =>
    let steps := stepViews markers r
    let points := steps.map fun s => RoutePoint.mk s.id s.position
    { startId := r.startId
      fixedStart := r.fixedStart
      steps := steps
      currentIndex := w.currentIndex
      totalDistance :=
        if r.order.isEmpty then none
        else some (routeDistance Point.distance r.start r.order points r.fixedStart)
      notice := w.notice }

end Walk

end MarkerAtlas
