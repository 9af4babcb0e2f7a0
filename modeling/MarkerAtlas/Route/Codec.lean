import MarkerAtlas.Route.Walk
import MarkerAtlas.Marker.Codec
import MarkerAtlas.Scalar.Double

/-!
# Routes in JSON
-/

namespace MarkerAtlas

/-- Writes a step of a route. -/
def RouteStep.encode (s : RouteStep Float) : Json :=
  .obj ([("index", Json.nat s.index), ("id", .str s.id), ("name", .str s.name), ("map", .str s.map)]
    ++ Json.memberIfSome "region" .str s.region
    ++ [("x", Json.float s.position.x), ("y", Json.float s.position.y), ("done", .bool s.done)])

/-- Writes a route; what it lacks is left out. -/
def RouteView.encode (v : RouteView Float) : Json :=
  .obj (Json.memberIfSome "startId" .str v.startId
    ++ [("fixedStart", .bool v.fixedStart), ("steps", .arr (v.steps.map RouteStep.encode))]
    ++ Json.memberIfSome "currentIndex" Json.nat v.currentIndex
    ++ Json.memberIfSome "totalDistance" Json.float v.totalDistance
    ++ Json.memberIfSome "notice" .str v.notice)

end MarkerAtlas
