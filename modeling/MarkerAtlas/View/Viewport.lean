import MarkerAtlas.Plane
import MarkerAtlas.Settings.Basic

/-!
# The viewport

A viewport maps world points to screen points by a scale and an offset, the pan:
`screen = pan + world · scale`. Every zoom keeps the world point under its anchor where it is, and
every scale that is set is moved inside the bounds of the settings.
-/

namespace MarkerAtlas

variable {α : Type}

/-- What part of the world the screen shows. -/
structure Viewport (α : Type) where
  scale : α
  pan : Point α
  size : Size α
  settings : ViewportSettings α

namespace Viewport

variable [Scalar α]

/-- A viewport without size that shows the world as it is. -/
def new (settings : ViewportSettings α) : Viewport α := ⟨1, Point.origin, Size.zero, settings⟩

/-- A length of the screen: what is not finite or negative counts as zero. -/
def screenLength (x : α) : α := if Scalar.isFinite x then Scalar.greatest x 0 else 0

/-- Sets the size of the screen. -/
def setSize (v : Viewport α) (size : Size α) : Viewport α :=
  { v with size := ⟨screenLength size.width, screenLength size.height⟩ }

/-- Sets the pan, if it is finite. -/
def setPan (v : Viewport α) (pan : Point α) : Viewport α :=
  if pan.isFinite then { v with pan := pan } else v

/-- Moves the world by an offset on the screen. -/
def panBy (v : Viewport α) (delta : Point α) : Viewport α := v.setPan (v.pan + delta)

/-- Shows the world as it is again; the size stays. -/
def reset (v : Viewport α) : Viewport α := { v with scale := 1, pan := Point.origin }

/-- The scale moved inside the bounds; what is not finite counts as one. -/
def clampScale (v : Viewport α) (scale : α) : α :=
  Scalar.clamp (Scalar.finiteOr scale 1) v.settings.minScale v.settings.maxScale

/-- Where a world point is drawn. -/
def worldToScreen (v : Viewport α) (world : Point α) : Point α := v.pan + world.scale v.scale

/-- Which world point is drawn at a screen point. -/
def screenToWorld (v : Viewport α) (screen : Point α) : Point α :=
  (screen - v.pan).scale (1 / v.scale)

/-- Shows the whole map in the middle of a screen of the given size, with a margin. -/
def fit (v : Viewport α) (size mapSize : Size α) : Viewport α :=
  let v := v.setSize size
  let width := Scalar.greatest v.size.width 1
  let height := Scalar.greatest v.size.height 1
  let margin := v.settings.fitPadding
  let wanted := Scalar.least ((width - margin) / mapSize.width) ((height - margin) / mapSize.height)
  let scale := v.clampScale wanted
  { v with
    scale := scale
    pan := ⟨(width - mapSize.width * scale) / Scalar.two,
      (height - mapSize.height * scale) / Scalar.two⟩ }

/-- Is it a factor to zoom by? -/
def isZoomFactor (factor : α) : Bool := Scalar.isFinite factor && decide (factor > 0)

/-- Zooms by a factor; the world point under the anchor stays there. -/
def zoomAt (v : Viewport α) (anchor : Point α) (factor : α) : Viewport α :=
  if anchor.isFinite && isZoomFactor factor then
    let world := v.screenToWorld anchor
    let scale := v.clampScale (v.scale * factor)
    { v with scale := scale, pan := anchor - world.scale scale }
  else v

/-- Zooms in by one step around the middle of the screen. -/
def zoomIn (v : Viewport α) : Viewport α := v.zoomAt v.size.center v.settings.zoomStep

/-- Zooms out by one step around the middle of the screen. -/
def zoomOut (v : Viewport α) : Viewport α := v.zoomAt v.size.center (1 / v.settings.zoomStep)

/-- Zooms by a turn of the wheel: out if it turns towards the user. -/
def wheel (v : Viewport α) (anchor : Point α) (deltaY : α) : Viewport α :=
  v.zoomAt anchor (if deltaY > 0 then v.settings.wheelZoomOut else v.settings.wheelZoomIn)

/-- Moves a world point to the middle of the screen. -/
def centerOn (v : Viewport α) (world : Point α) : Viewport α :=
  if world.isFinite then { v with pan := v.size.center - world.scale v.scale } else v

/-- Zooms by a factor, then moves a world point to the middle of the screen. -/
def centerOnAtScale (v : Viewport α) (world : Point α) (factor : α) : Viewport α :=
  let v := if isZoomFactor factor then { v with scale := v.clampScale (v.scale * factor) } else v
  v.centerOn world

/-- The part of the world that a screen shows, grown by a padding in screen pixels on every
side. What is not finite is replaced, so that the box always has edges. -/
def boundsFor (size : Size α) (pan : Point α) (scale padding : α) : Box α :=
  let scale := Scalar.greatest (Scalar.abs (Scalar.finiteOr scale 1)) (Scalar.ofDecimal 1 6)
  let inverse := 1 / scale
  let pad := Scalar.greatest (Scalar.finiteOr padding 0) 0 * inverse
  let width := Scalar.finiteOr size.width 0
  let height := Scalar.finiteOr size.height 0
  let panX := Scalar.finiteOr pan.x 0
  let panY := Scalar.finiteOr pan.y 0
  { left := Scalar.plainZero (-panX * inverse - pad)
    top := Scalar.plainZero (-panY * inverse - pad)
    right := Scalar.plainZero ((width - panX) * inverse + pad)
    bottom := Scalar.plainZero ((height - panY) * inverse + pad) }

/-- The part of the world that is shown, grown by a padding in screen pixels on every side. -/
def worldBounds (v : Viewport α) (padding : α) : Box α := boundsFor v.size v.pan v.scale padding

end Viewport

end MarkerAtlas
