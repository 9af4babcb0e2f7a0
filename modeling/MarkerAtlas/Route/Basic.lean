import MarkerAtlas.Marker.Basic

/-!
# Routes

A route is an order in which to visit markers, from a start on. When the start is itself one of
the markers to visit, the route begins with it and the start is fixed. The length of a route is
the sum of its legs; the distance of two points is a parameter, so that what is said of routes
does not hang on one way to measure them.
-/

namespace MarkerAtlas

variable {α : Type}

/-- A marker to visit. -/
structure RoutePoint (α : Type) where
  id : String
  position : Point α

/-- A way to measure the distance of two points. -/
abbrev Metric (α : Type) := Point α → Point α → α

/-- An order in which to visit markers. -/
structure Route (α : Type) where
  start : Point α
  startId : Option String
  order : List String
  /-- The route begins with the marker it starts from. -/
  fixedStart : Bool
  distance : α

namespace RoutePoint

/-- The position of the point with an id; the last one if several have it. -/
def locate (points : List (RoutePoint α)) (id : String) : Option (Point α) :=
  points.foldl (fun found p => if p.id = id then some p.position else found) none

/-- The point to visit for a marker, if the marker has a position. -/
def ofMarker? [Scalar α] (m : Marker α) : Option (RoutePoint α) :=
  m.position.map fun p => ⟨m.id, p⟩

/-- What is left to visit: the markers that are not done and have a position. -/
def candidates [Scalar α] (markers : List (Marker α)) : List (RoutePoint α) :=
  (markers.filter (!·.done)).filterMap ofMarker?

end RoutePoint

section
variable [Scalar α]

/-- The length so far and the legs from `p` on through the points that follow. -/
def legsFrom (dist : Metric α) (total : α) (p : Point α) : List (Point α) → α
  | [] => total
  | q :: rest => legsFrom dist (total + dist p q) q rest

/-- The length of the walk through the ids in their order: from the start, unless the start is
the first of them. Ids that no point has are passed over. -/
def routeDistance (dist : Metric α) (start : Point α) (order : List String)
    (points : List (RoutePoint α)) (fixedStart : Bool) : α :=
  match order.filterMap (RoutePoint.locate points) with
  | [] => 0
  | first :: rest => legsFrom dist (if fixedStart then 0 else dist start first) first rest

end

end MarkerAtlas
