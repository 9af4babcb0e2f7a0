import MarkerAtlas.Scalar.Basic

/-!
# Points, sizes and boxes

The plane in which maps and screens lie: x grows to the right and y downwards.
-/

namespace MarkerAtlas

variable {α : Type}

/-- A point or an offset, in world or in screen pixels. -/
structure Point (α : Type) where
  x : α
  y : α

/-- The size of a screen or a map. -/
structure Size (α : Type) where
  width : α
  height : α

/-- A box with sides along the axes; its edges belong to it. -/
structure Box (α : Type) where
  left : α
  top : α
  right : α
  bottom : α

section
variable [Scalar α]

namespace Point

/-- The origin. -/
def origin : Point α := ⟨0, 0⟩

instance : Add (Point α) := ⟨fun p q => ⟨p.x + q.x, p.y + q.y⟩⟩

instance : Sub (Point α) := ⟨fun p q => ⟨p.x - q.x, p.y - q.y⟩⟩

/-- The offset stretched by a factor. -/
def scale (p : Point α) (factor : α) : Point α := ⟨p.x * factor, p.y * factor⟩

/-- Are both coordinates finite numbers? -/
def isFinite (p : Point α) : Bool := Scalar.isFinite p.x && Scalar.isFinite p.y

/-- The distance along a straight line. -/
def distance (p q : Point α) : α := Scalar.hypot (p.x - q.x) (p.y - q.y)

@[simp] theorem add_x (p q : Point α) : (p + q).x = p.x + q.x := rfl

@[simp] theorem add_y (p q : Point α) : (p + q).y = p.y + q.y := rfl

@[simp] theorem sub_x (p q : Point α) : (p - q).x = p.x - q.x := rfl

@[simp] theorem sub_y (p q : Point α) : (p - q).y = p.y - q.y := rfl

@[simp] theorem scale_x (p : Point α) (k : α) : (p.scale k).x = p.x * k := rfl

@[simp] theorem scale_y (p : Point α) (k : α) : (p.scale k).y = p.y * k := rfl

end Point

namespace Size

/-- The size of nothing. -/
def zero : Size α := ⟨0, 0⟩

/-- Is there no room in it? What is no number counts as no room. -/
def isEmpty (s : Size α) : Bool := !(decide (s.width > 0) && decide (s.height > 0))

/-- The point in the middle. -/
def center (s : Size α) : Point α := ⟨s.width / Scalar.two, s.height / Scalar.two⟩

end Size

namespace Box

/-- Does the point lie in the box or on its edge? -/
def contains (b : Box α) (p : Point α) : Bool :=
  decide (p.x ≥ b.left) && decide (p.x ≤ b.right) && decide (p.y ≥ b.top) && decide (p.y ≤ b.bottom)

end Box

end

end MarkerAtlas
