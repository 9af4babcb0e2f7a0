import Mathlib
import MarkerAtlas.Proofs.Scalar.Exact
import MarkerAtlas.Proofs.View.Viewport
import MarkerAtlas.View.Visibility

/-!
# Culling agrees with drawing

Which markers are visible is decided in the world: the screen is taken back through the view to a
box, and a marker is visible if it lies in the box. Drawing goes the other way. In exact arithmetic
both agree: the visible markers are those that are drawn on the screen or at most the padding
beside it.
-/

namespace MarkerAtlas.Viewport

variable {K : Type} [ExactField K]

/-- The point lies on the screen or at most a margin beside it. The edge belongs to it. -/
@[mk_iff]
structure OnScreen (v : Viewport K) (margin : K) (p : Point K) : Prop where
  left : -margin ≤ p.x
  right : p.x ≤ v.size.width + margin
  top : -margin ≤ p.y
  bottom : p.y ≤ v.size.height + margin

/-- The marker is drawn on the screen or at most a margin beside it. -/
def Reveals (v : Viewport K) (margin : K) (m : Marker K) : Prop :=
  ∃ p, m.position = some p ∧ v.OnScreen margin (v.worldToScreen p)

variable {v : Viewport K} {padding : K} {m : Marker K}

instance (margin : K) (p : Point K) : Decidable (v.OnScreen margin p) :=
  decidable_of_iff _ (v.onScreen_iff margin p).symm

instance (margin : K) : DecidablePred (v.Reveals margin) := fun m =>
  inferInstanceAs (Decidable (∃ p ∈ m.position, v.OnScreen margin (v.worldToScreen p)))

theorem OnScreen.mono {margin wider : K} {p : Point K} (h : v.OnScreen margin p)
    (hle : margin ≤ wider) : v.OnScreen wider p where
  left := (neg_le_neg hle).trans h.left
  right := h.right.trans (by gcongr)
  top := (neg_le_neg hle).trans h.top
  bottom := h.bottom.trans (by gcongr)

theorem Reveals.mono {margin wider : K} (h : v.Reveals margin m) (hle : margin ≤ wider) :
    v.Reveals wider m := by
  obtain ⟨p, hp, hscreen⟩ := h
  exact ⟨p, hp, hscreen.mono hle⟩

/-! ## One axis -/

section
variable {scale : K} (hscale : 0 < scale) (pan pad size x : K)
include hscale

/-- The near edge of the box is where the screen begins, less the padding. -/
theorem near_edge_le_iff :
    -pan * (1 / scale) - pad * (1 / scale) ≤ x ↔ -pad ≤ pan + x * scale := by
  have hedge : -pan * (1 / scale) - pad * (1 / scale) = (-pan - pad) / scale := by ring
  rw [hedge, div_le_iff₀ hscale]
  constructor <;> intro h <;> linarith

/-- The far edge of the box is where the screen ends, and the padding. -/
theorem le_far_edge_iff :
    x ≤ (size - pan) * (1 / scale) + pad * (1 / scale) ↔ pan + x * scale ≤ size + pad := by
  have hedge : (size - pan) * (1 / scale) + pad * (1 / scale) = (size - pan + pad) / scale := by
    ring
  rw [hedge, le_div_iff₀ hscale]
  constructor <;> intro h <;> linarith

end

/-! ## The box -/

theorem leastScale_eq : (Scalar.ofDecimal 1 6 : K) = 1 / 10 ^ 6 := by
  rw [ExactField.ofDecimal_eq, Nat.cast_one]

/-- A scale that is not too small is the one that the box is made with. -/
theorem worldBounds_eq (hscale : 1 / 10 ^ 6 ≤ v.scale) (padding : K) :
    v.worldBounds padding =
      { left := -v.pan.x * (1 / v.scale) - max padding 0 * (1 / v.scale)
        top := -v.pan.y * (1 / v.scale) - max padding 0 * (1 / v.scale)
        right := (v.size.width - v.pan.x) * (1 / v.scale) + max padding 0 * (1 / v.scale)
        bottom := (v.size.height - v.pan.y) * (1 / v.scale) + max padding 0 * (1 / v.scale) } := by
  have hpos : (0 : K) ≤ v.scale := le_trans (by positivity) hscale
  -- The box is never made with a scale below a millionth, and this scale is not below it.
  have hkept : max |v.scale| (Scalar.ofDecimal 1 6) = v.scale := by
    rw [abs_of_nonneg hpos, leastScale_eq, max_eq_left hscale]
  simp only [worldBounds, boundsFor, ExactField.finiteOr_eq, ExactField.abs_eq_abs,
    ExactField.greatest_eq_max, ExactField.plainZero_eq, hkept]

/-- The box holds what is drawn on the screen or at most the padding beside it. -/
theorem encloses_worldBounds_iff (hscale : 1 / 10 ^ 6 ≤ v.scale) (padding : K) (p : Point K) :
    (v.worldBounds padding).Encloses p ↔ v.OnScreen (max padding 0) (v.worldToScreen p) := by
  have hpos : 0 < v.scale := lt_of_lt_of_le (by positivity) hscale
  -- Each edge of the box is taken to the screen by itself.
  rw [worldBounds_eq hscale, Box.Encloses, near_edge_le_iff hpos, near_edge_le_iff hpos,
    le_far_edge_iff hpos, le_far_edge_iff hpos, onScreen_iff]
  rfl

/-! ## The visible markers -/

theorem isEmpty_size_eq_false (hwidth : 0 < v.size.width) (hheight : 0 < v.size.height) :
    v.size.isEmpty = false := by
  rw [Size.isEmpty, decide_eq_true hwidth, decide_eq_true hheight]
  rfl

theorem shows_iff_reveals (hempty : v.size.isEmpty = false) (hscale : 1 / 10 ^ 6 ≤ v.scale)
    (padding : K) (m : Marker K) :
    v.shows padding m = true ↔ v.Reveals (max padding 0) m := by
  unfold shows Reveals
  cases m.position with
  | none => simp
  | some p =>
    simp only [hempty, Bool.false_or, Box.contains_iff, encloses_worldBounds_iff hscale,
      Option.some.injEq, exists_eq_left']

/-- **Culling agrees with drawing.** On a screen with room in it, the visible markers are those that
are drawn on the screen or at most the padding beside it, in their order; a padding below zero
counts as none. So every marker that is drawn on the screen is visible, and a larger padding hides
none. -/
theorem visible_agrees_with_drawing (v : Viewport K) (hwidth : 0 < v.size.width)
    (hheight : 0 < v.size.height) (hscale : 1 / 10 ^ 6 ≤ v.scale) (padding : K)
    (markers : List (Marker K)) :
    v.visible padding markers = markers.filter (v.Reveals (max padding 0)) ∧
      (∀ m ∈ markers, v.Reveals 0 m → m ∈ v.visible padding markers) ∧
      ∀ wider, padding ≤ wider → (v.visible padding markers).Sublist (v.visible wider markers) := by
  have hempty := isEmpty_size_eq_false hwidth hheight
  have hshows := shows_iff_reveals hempty hscale
  refine ⟨?_, fun m hm hdrawn => ?_, fun wider hle => ?_⟩
  · refine List.filter_congr fun m _ => ?_
    rw [Bool.eq_iff_iff, hshows, decide_eq_true_iff]
  · have hmargin : (0 : K) ≤ max padding 0 := le_max_right _ _
    exact List.mem_filter.mpr ⟨hm, (hshows padding m).mpr (hdrawn.mono hmargin)⟩
  · -- What is drawn within a margin is drawn within a wider one.
    refine List.monotone_filter_right markers fun m hm => ?_
    have hmargin : max padding 0 ≤ max wider 0 := max_le_max_right 0 hle
    exact (hshows wider m).mpr (((hshows padding m).mp hm).mono hmargin)

/-- A marker in the corner of the padded screen is visible, and one a step beyond is not. -/
theorem visible_in_corner :
    ∃ (v : Viewport ℝ) (corner beyond : Marker ℝ), 0 < v.size.width ∧ 0 < v.size.height ∧
      1 / 10 ^ 6 ≤ v.scale ∧ v.visible 10 [beyond, corner] = [corner] := by
  let v : Viewport ℝ := ⟨2, ⟨100, 50⟩, ⟨400, 300⟩, ViewportSettings.standard⟩
  let marker (x y : ℝ) : Marker ℝ :=
    ⟨"a", .cube, none, "Poeta", none, "Chest", none, some x, some y, none, false⟩
  have hscale : 1 / 10 ^ 6 ≤ v.scale := by norm_num [v]
  -- Drawn at -10 and 310, the marker is just the padding beside the screen.
  have hcorner : v.Reveals (max 10 0) (marker (-55) 130) :=
    ⟨⟨-55, 130⟩, rfl, by norm_num [onScreen_iff, v, worldToScreen]⟩
  have hbeyond : ¬v.Reveals (max 10 0) (marker (-56) 130) := by
    rintro ⟨p, hp, hscreen⟩
    obtain rfl : ⟨-56, 130⟩ = p := Option.some.inj hp
    norm_num [onScreen_iff, v, worldToScreen] at hscreen
  refine ⟨v, marker (-55) 130, marker (-56) 130, by norm_num [v], by norm_num [v], hscale, ?_⟩
  rw [(visible_agrees_with_drawing v (by norm_num [v]) (by norm_num [v]) hscale 10 _).1,
    List.filter_cons_of_neg (by simpa using hbeyond),
    List.filter_cons_of_pos (by simpa using hcorner),
    List.filter_nil]

end MarkerAtlas.Viewport
