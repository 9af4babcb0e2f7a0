import MarkerAtlas.View.Viewport
import MarkerAtlas.Marker.Basic

/-!
# Which markers are visible

A marker is visible if its position lies in the padded part of the world that the viewport shows.
As long as the viewport has no size, every marker with a position is visible; a marker without
one never is.
-/

namespace MarkerAtlas.Viewport

variable {α : Type} [Scalar α]

/-- Does the marker lie in the padded part of the world that is shown? -/
def shows (v : Viewport α) (padding : α) (m : Marker α) : Bool :=
  match m.position with
  | none => false
  | some p => v.size.isEmpty || (v.worldBounds padding).contains p

/-- The visible markers, in their order. -/
def visible (v : Viewport α) (padding : α) (markers : List (Marker α)) : List (Marker α) :=
  markers.filter (v.shows padding)

end MarkerAtlas.Viewport
