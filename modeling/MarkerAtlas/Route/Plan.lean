import MarkerAtlas.Route.Greedy
import MarkerAtlas.Route.TwoOpt
import MarkerAtlas.Settings.Basic

/-!
# Planning a route

A route through all points is planned by going to the nearest point next and improving the
result. More points than the settings allow are refused, never left out.
-/

namespace MarkerAtlas

variable {α : Type} [Scalar α]

/-- More markers than a route may have. -/
structure TooManyCandidates where
  count : Nat
  max : Nat
  deriving DecidableEq

/-- Plans a route from the start through every point. -/
def RouteSettings.plan (s : RouteSettings) (dist : Metric α) (startId : Option String)
    (start : Point α) (points : List (RoutePoint α)) : Except TooManyCandidates (Route α) :=
  if points.length > s.maxCandidates then .error ⟨points.length, s.maxCandidates⟩
  else
    let first := nearestNeighbor dist startId start points
    let order := twoOpt dist start first.order points first.fixedStart s.passes
    .ok {
      start := start
      startId := startId
      order := order
      fixedStart := first.fixedStart
      distance := routeDistance dist start order points first.fixedStart }

end MarkerAtlas
