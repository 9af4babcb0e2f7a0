import MarkerAtlas.Session.Frame
import MarkerAtlas.Marker.Codec
import MarkerAtlas.Scalar.Double

/-!
# Frames and viewports in JSON
-/

namespace MarkerAtlas

/-- Writes a viewport. -/
def Viewport.encode (v : Viewport Float) : Json :=
  .obj [("scale", Json.float v.scale), ("panX", Json.float v.pan.x), ("panY", Json.float v.pan.y),
    ("width", Json.float v.size.width), ("height", Json.float v.size.height)]

/-- Writes a marker that is drawn by itself. -/
def MarkerDot.encode (d : MarkerDot Float) : Json :=
  .obj [("id", .str d.id), ("x", Json.float d.position.x), ("y", Json.float d.position.y),
    ("done", .bool d.done), ("selected", .bool d.selected)]

/-- Writes a cluster. -/
def Cluster.encode (c : Cluster Float) : Json :=
  .obj [("key", .str c.key.render), ("x", Json.float c.centroid.x),
    ("y", Json.float c.centroid.y), ("count", Json.nat c.count),
    ("doneCount", Json.nat c.doneCount), ("tone", .str c.tone.name)]

/-- Writes a frame; a map or an error that is not there is left out. -/
def Frame.encode (f : Frame Float) : Json :=
  .obj (Json.memberIfSome "map" .str f.map
    ++ [("clustered", .bool f.clustered), ("singles", .arr (f.singles.map MarkerDot.encode)),
      ("clusters", .arr (f.clusters.map Cluster.encode)),
      ("visibleCount", Json.nat f.visibleCount), ("visibleDone", Json.nat f.visibleDone),
      ("totalCount", Json.nat f.totalCount), ("totalDone", Json.nat f.totalDone)]
    ++ Json.memberIfSome "error" .str f.pageError)

end MarkerAtlas
