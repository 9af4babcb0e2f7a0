import MarkerAtlas.View.Viewport
import MarkerAtlas.Pointer.Event

/-!
# Dragging the map

While a pointer drags the map, each of its moves only sets where the pan is to go; `tick` moves
the viewport there, once per frame. Targets in between are dropped, which loses nothing: every
target counts from the start of the drag.
-/

namespace MarkerAtlas

variable {α : Type}

/-- A drag in progress. -/
structure Drag (α : Type) where
  pointer : UInt32
  /-- Where the pointer went down. -/
  origin : Point α
  /-- The pan when the pointer went down. -/
  panAtStart : Point α

/-- The drag in progress, if there is one, and the pan that is still to be applied. -/
structure DragState (α : Type) where
  drag : Option (Drag α)
  pending : Option (Point α)

namespace DragState

/-- Nothing is dragged. -/
def idle : DragState α := ⟨none, none⟩

/-- The button that drags. -/
def primaryButton : UInt8 := 0

/-- Is this the pointer that drags? -/
def follows (s : DragState α) (pointer : UInt32) : Bool := s.drag.any (·.pointer == pointer)

variable [Scalar α]

/-- Starts a drag with the primary button. Says whether a drag was started. -/
def pointerDown (s : DragState α) (pointer : UInt32) (button : UInt8) (position pan : Point α) :
    DragState α × Bool :=
  if button = primaryButton ∧ position.isFinite then (⟨some ⟨pointer, position, pan⟩, none⟩, true)
  else (s, false)

/-- Notes where the pan is to go. Says whether there is something to apply now. -/
def pointerMove (s : DragState α) (pointer : UInt32) (position : Point α) : DragState α × Bool :=
  match s.drag with
  | none => (s, false)
  | some d =>
    if d.pointer = pointer ∧ position.isFinite then
      ({ s with pending := some (d.panAtStart + (position - d.origin)) }, true)
    else (s, false)

/-- Applies the pending pan. Says whether there was one. -/
def tick (s : DragState α) (v : Viewport α) : DragState α × Viewport α × Bool :=
  match s.pending with
  | none => (s, v, false)
  | some pan => ({ s with pending := none }, v.setPan pan, true)

/-- Ends the drag of a pointer and applies what is pending. Says whether it was dragging. -/
def pointerUp (s : DragState α) (pointer : UInt32) (v : Viewport α) :
    DragState α × Viewport α × Bool :=
  if s.follows pointer then
    let (s, v, _) := ({ s with drag := none } : DragState α).tick v
    (s, v, true)
  else (s, v, false)

/-- Takes up an event on the drawing surface. Says whether the view changed or a tick is due; a
wheel that did not turn changes nothing. -/
def handle (s : DragState α) (v : Viewport α) : InputEvent α → DragState α × Viewport α × Bool
  | .pointerDown pointer button position =>
    let (s, taken) := s.pointerDown pointer button position v.pan
    (s, v, taken)
  | .pointerMove pointer position =>
    let (s, taken) := s.pointerMove pointer position
    (s, v, taken)
  | .pointerUp pointer => s.pointerUp pointer v
  | .pointerCancel pointer => s.pointerUp pointer v
  | .wheel position deltaY =>
    if Scalar.isFinite deltaY && !Scalar.same deltaY 0 then (s, v.wheel position deltaY, true)
    else (s, v, false)

end DragState

end MarkerAtlas
