import MarkerAtlas.Pointer.Drag
import MarkerAtlas.View.Viewport

/-!
# What moving the view leaves alone

A viewport is moved by setting its scale or its pan, and most operations only pan. None of them
touches the settings or the size of the screen, so that the bounds of the scale are the same for
good and the screen has room only after it was given a size.
-/

namespace MarkerAtlas

variable {α : Type}

/-! ## Boxes -/

/-- The point lies in the box or on its edge. -/
def Box.Encloses [Scalar α] (b : Box α) (p : Point α) : Prop :=
  b.left ≤ p.x ∧ p.x ≤ b.right ∧ b.top ≤ p.y ∧ p.y ≤ b.bottom

theorem Box.contains_iff [Scalar α] (b : Box α) (p : Point α) :
    b.contains p = true ↔ b.Encloses p := by
  simp only [contains, Encloses, Bool.and_eq_true, decide_eq_true_eq, ge_iff_le, and_assoc]

/-! ## The viewport itself -/

namespace Viewport

/-- Both viewports have the same settings and show the world on a screen of the same size. -/
structure SameScreen (v w : Viewport α) : Prop where
  settings : w.settings = v.settings
  size : w.size = v.size

/-- The second viewport differs from the first one at most in its pan. -/
structure Panned (v w : Viewport α) : Prop extends v.SameScreen w where
  scale : w.scale = v.scale

theorem SameScreen.refl (v : Viewport α) : v.SameScreen v := ⟨rfl, rfl⟩

theorem SameScreen.trans {u v w : Viewport α} (h : u.SameScreen v) (h' : v.SameScreen w) :
    u.SameScreen w :=
  ⟨h'.settings.trans h.settings, h'.size.trans h.size⟩

theorem SameScreen.eq {v w : Viewport α} (h : v.SameScreen w) :
    w = { v with scale := w.scale, pan := w.pan } := by
  obtain ⟨hsettings, hsize⟩ := h
  rw [← hsettings, ← hsize]

theorem Panned.refl (v : Viewport α) : v.Panned v := ⟨.refl v, rfl⟩

theorem Panned.trans {u v w : Viewport α} (h : u.Panned v) (h' : v.Panned w) : u.Panned w :=
  ⟨h.toSameScreen.trans h'.toSameScreen, h'.scale.trans h.scale⟩

theorem Panned.eq {v w : Viewport α} (h : v.Panned w) : w = { v with pan := w.pan } := by
  obtain ⟨⟨hsettings, hsize⟩, hscale⟩ := h
  rw [← hsettings, ← hsize, ← hscale]

variable [Scalar α]

theorem sameScreen_reset (v : Viewport α) : v.SameScreen v.reset := ⟨rfl, rfl⟩

theorem panned_setPan (v : Viewport α) (pan : Point α) : v.Panned (v.setPan pan) := by
  unfold setPan
  split
  · exact ⟨⟨rfl, rfl⟩, rfl⟩
  · exact .refl v

theorem panned_centerOn (v : Viewport α) (world : Point α) : v.Panned (v.centerOn world) := by
  unfold centerOn
  split
  · exact ⟨⟨rfl, rfl⟩, rfl⟩
  · exact .refl v

theorem sameScreen_zoomAt (v : Viewport α) (anchor : Point α) (factor : α) :
    v.SameScreen (v.zoomAt anchor factor) := by
  unfold zoomAt
  split
  · exact ⟨rfl, rfl⟩
  · exact .refl v

theorem sameScreen_zoomIn (v : Viewport α) : v.SameScreen v.zoomIn := sameScreen_zoomAt v _ _

theorem sameScreen_zoomOut (v : Viewport α) : v.SameScreen v.zoomOut := sameScreen_zoomAt v _ _

theorem sameScreen_wheel (v : Viewport α) (anchor : Point α) (deltaY : α) :
    v.SameScreen (v.wheel anchor deltaY) := sameScreen_zoomAt v _ _

theorem sameScreen_centerOnAtScale (v : Viewport α) (world : Point α) (factor : α) :
    v.SameScreen (v.centerOnAtScale world factor) := by
  -- Zooming sets the scale only, and what is zoomed is panned then.
  have hpanned := fun w : Viewport α => (w.panned_centerOn world).toSameScreen
  unfold centerOnAtScale
  split
  · exact ⟨(hpanned _).settings, (hpanned _).size⟩
  · exact hpanned v

/-! ### Fitting a map -/

/-- The size is one that `setSize` leaves as it is. -/
def Sized (v : Viewport α) : Prop := v.setSize v.size = v

theorem Sized.size_eq {v : Viewport α} (h : v.Sized) : (v.setSize v.size).size = v.size :=
  congrArg Viewport.size (show v.setSize v.size = v from h)

theorem SameScreen.sized {v w : Viewport α} (h : v.SameScreen w) (hv : v.Sized) : w.Sized := by
  have hsize : (w.setSize w.size).size = w.size := by
    rw [h.size]
    exact hv.size_eq
  show ({ w with size := (w.setSize w.size).size } : Viewport α) = w
  rw [hsize]

/-- The scale that fitting a map asks for: the map fills the screen but for the margin. -/
def fitScale (v : Viewport α) (size mapSize : Size α) : α :=
  let width := Scalar.greatest (v.setSize size).size.width 1
  let height := Scalar.greatest (v.setSize size).size.height 1
  let margin := v.settings.fitPadding
  Scalar.least ((width - margin) / mapSize.width) ((height - margin) / mapSize.height)

theorem scale_fit (v : Viewport α) (size mapSize : Size α) :
    (v.fit size mapSize).scale = v.clampScale (v.fitScale size mapSize) := rfl

/-- The view is the one in which the map is fitted. -/
def IsFitted (v : Viewport α) (mapSize : Size α) : Prop := v.fit v.size mapSize = v

/-- Fitting takes of the view before no more than the settings. -/
theorem fit_congr {v w : Viewport α} (h : v.settings = w.settings) (size mapSize : Size α) :
    v.fit size mapSize = w.fit size mapSize := by
  obtain ⟨scale, pan, screen, settings⟩ := v
  cases h
  rfl

theorem Sized.sameScreen_fit {v : Viewport α} (h : v.Sized) (mapSize : Size α) :
    v.SameScreen (v.fit v.size mapSize) := ⟨rfl, h.size_eq⟩

theorem Sized.isFitted_fit {v : Viewport α} (h : v.Sized) (mapSize : Size α) :
    (v.fit v.size mapSize).IsFitted mapSize := by
  have hsame := h.sameScreen_fit mapSize
  unfold IsFitted
  rw [hsame.size]
  exact fit_congr hsame.settings v.size mapSize

end Viewport

/-! ## Dragging -/

namespace DragState

variable [Scalar α]

theorem panned_tick (s : DragState α) (v : Viewport α) : v.Panned (s.tick v).2.1 := by
  unfold tick
  split
  · exact .refl v
  · exact Viewport.panned_setPan v _

theorem panned_pointerUp (s : DragState α) (pointer : UInt32) (v : Viewport α) :
    v.Panned (s.pointerUp pointer v).2.1 := by
  unfold pointerUp
  split
  · exact panned_tick _ v
  · exact .refl v

theorem sameScreen_handle (s : DragState α) (v : Viewport α) (event : InputEvent α) :
    v.SameScreen (s.handle v event).2.1 := by
  cases event with
  | pointerDown pointer button position => exact .refl v
  | pointerMove pointer position => exact .refl v
  | pointerUp pointer => exact (panned_pointerUp s pointer v).toSameScreen
  | pointerCancel pointer => exact (panned_pointerUp s pointer v).toSameScreen
  | wheel position deltaY =>
    show v.SameScreen (if Scalar.isFinite deltaY && !Scalar.same deltaY 0
      then (s, v.wheel position deltaY, true) else (s, v, false)).2.1
    split
    · exact Viewport.sameScreen_wheel v position deltaY
    · exact .refl v

end DragState

end MarkerAtlas
