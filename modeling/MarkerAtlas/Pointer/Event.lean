import MarkerAtlas.Plane

/-!
# Pointer and wheel events

What the drawing surface reports of the pointers over it, in screen pixels.
-/

namespace MarkerAtlas

/-- An event on the drawing surface. -/
inductive InputEvent (α : Type) where
  | pointerDown (pointer : UInt32) (button : UInt8) (position : Point α)
  | pointerMove (pointer : UInt32) (position : Point α)
  | pointerUp (pointer : UInt32)
  | pointerCancel (pointer : UInt32)
  | wheel (position : Point α) (deltaY : α)

end MarkerAtlas
