import MarkerAtlas.Proofs.Scalar.Factor
import MarkerAtlas.Proofs.View.ScaleBounds

/-!
# Which way a zoom goes

The check of the settings lets more factors pass than the zooms can work with. A step that is no
number, or infinite, is refused by every zoom; a product that is too large for a double counts as a
scale of one, which lies on the wrong side; and a product with a very small scale may be rounded
back to it. For all other factors the zooms go the way they should. Whether one does is decided by
the factor and the product alone, since a scale that lies properly inside the bounds leaves room
on both sides.

## Plan

* `Viewport.Inside`: what is asked of the viewport, and what a scale that is asked for comes to.
* `Inside.lt_scale_zoomAt_iff`, `Inside.scale_zoomAt_lt_iff`: zooms by one factor.
* `Inside.mul_ne_scale`: only a very small scale is rounded back to.
-/

namespace MarkerAtlas.Viewport

open Double (value)

section
variable {α : Type} [Scalar α] (v : Viewport α) (anchor : Point α) {deltaY : α}

theorem wheel_of_pos (h : deltaY > 0) :
    v.wheel anchor deltaY = v.zoomAt anchor v.settings.wheelZoomOut := by rw [wheel, if_pos h]

theorem wheel_of_not_pos (h : ¬deltaY > 0) :
    v.wheel anchor deltaY = v.zoomAt anchor v.settings.wheelZoomIn := by rw [wheel, if_neg h]

end

variable {settings : Settings Float} {v : Viewport Float}

/-- The scale of the viewport lies properly inside the bounds of settings that have no fault. -/
structure Inside (settings : Settings Float) (v : Viewport Float) : Prop where
  valid : settings.fault? = none
  settings_eq : v.settings = settings.viewport
  above : settings.viewport.minScale < v.scale
  below : v.scale < settings.viewport.maxScale

namespace Inside

variable (h : v.Inside settings)
include h

theorem isFinite_scale : v.scale.isFinite = true := Double.isFinite_of_between h.above h.below

theorem scale_pos : 0 < value v.scale := by
  have hlow : (0.0 : Float) < settings.viewport.minScale :=
    (settings.fault?_eq_none_iff.mp h.valid).1.1
  exact (Double.pos_iff_value_pos h.isFinite_scale).mp (Double.lt_trans hlow h.above)

theorem allows_scale : settings.viewport.Allows v.scale :=
  ⟨Double.le_of_lt h.above, Double.le_of_lt h.below⟩

theorem lt_clampScale_iff (x : Float) :
    v.scale < v.clampScale x ↔ v.scale < Scalar.finiteOr x 1 := by
  unfold clampScale
  rw [h.settings_eq]
  exact Double.lt_clamp_iff h.above h.below

theorem clampScale_lt_iff (x : Float) :
    v.clampScale x < v.scale ↔ Scalar.finiteOr x 1 < v.scale := by
  unfold clampScale
  rw [h.settings_eq]
  exact Double.clamp_lt_iff h.above h.below

/-- A zoom ends inside the bounds, whether it is refused or not. -/
theorem allows_zoom (z : Zoom Float) : settings.viewport.Allows (v.zoom z).scale := by
  rw [zoom_eq, zoomAt]
  split
  · exact allows_clampScale h.valid h.settings_eq _
  · exact h.allows_scale

/-! ## Zooms by one factor -/

/-- A product with a factor above one is a greater scale to ask for, unless it is too large or
rounded back to the scale. -/
theorem lt_finiteOr_iff {factor : Float} (hfinite : factor.isFinite = true)
    (hfactor : 1 < value factor) :
    v.scale < Scalar.finiteOr (v.scale * factor) 1 ↔
      (v.scale * factor).isFinite = true ∧ v.scale * factor ≠ v.scale := by
  have hscale := h.isFinite_scale
  cases hproduct : (v.scale * factor).isFinite with
  | true =>
    have hasked : Scalar.finiteOr (v.scale * factor) 1 = v.scale * factor := if_pos hproduct
    rw [hasked, Double.lt_iff_value_lt hscale hproduct]
    -- The product is not less than the scale, so that it is greater unless it is the same.
    refine ⟨fun hlt => ⟨rfl, fun heq => hlt.ne (congrArg value heq).symm⟩, fun ⟨_, hne⟩ => ?_⟩
    refine lt_of_le_of_ne (Double.value_le_mul hscale hfinite h.scale_pos hfactor.le hproduct) ?_
    exact fun heq => hne (Double.eq_of_value_eq hscale hproduct h.scale_pos.ne' heq).symm
  | false =>
    -- Only a scale above one has a product that is too large, and is asked to be one.
    have hasked : Scalar.finiteOr (v.scale * factor) 1 = 1.0 :=
      if_neg (Bool.eq_false_iff.mp hproduct)
    have hlarge := Double.one_lt_of_not_isFinite_mul hscale hfinite h.scale_pos
      (zero_lt_one.trans hfactor) hproduct
    obtain ⟨hone, hvalue⟩ := Double.value_one
    rw [hasked, Double.lt_iff_value_lt hscale hone, hvalue]
    exact iff_of_false hlarge.not_gt fun ⟨hcontra, _⟩ => Bool.false_ne_true hcontra

/-- A product with a factor below one is a smaller scale to ask for, unless it is rounded back to
the scale. -/
theorem finiteOr_lt_iff {factor : Float} (hfinite : factor.isFinite = true)
    (hpos : 0 < value factor) (hless : value factor < 1) :
    Scalar.finiteOr (v.scale * factor) 1 < v.scale ↔ v.scale * factor ≠ v.scale := by
  have hscale := h.isFinite_scale
  obtain ⟨hproduct, hle⟩ := Double.value_mul_le hscale hfinite h.scale_pos hpos hless.le
  have hasked : Scalar.finiteOr (v.scale * factor) 1 = v.scale * factor := if_pos hproduct
  rw [hasked, Double.lt_iff_value_lt hproduct hscale]
  -- The product is never greater, so that being another double is enough.
  refine ⟨fun hlt heq => hlt.ne (congrArg value heq), fun hne => lt_of_le_of_ne hle fun heq => ?_⟩
  exact hne (Double.eq_of_value_eq hscale hproduct h.scale_pos.ne' heq.symm).symm

section
variable {anchor : Point Float} {factor : Float}

omit h in
theorem zoomAt_of_refused (hfactor : isZoomFactor factor = false) :
    v.zoomAt anchor factor = v := by
  rw [zoomAt, hfactor, Bool.and_false, if_neg Bool.false_ne_true]

omit h in
theorem scale_zoomAt (hanchor : anchor.isFinite = true) (hfinite : factor.isFinite = true)
    (hpos : 0 < value factor) :
    (v.zoomAt anchor factor).scale = v.clampScale (v.scale * factor) := by
  have hfactor : isZoomFactor factor = true := by
    have hpositive : factor > 0 := (Double.pos_iff_value_pos hfinite).mpr hpos
    exact Bool.and_eq_true_iff.mpr ⟨hfinite, decide_eq_true hpositive⟩
  rw [zoomAt, hanchor, hfactor, Bool.and_self, if_pos rfl]

/-- A factor that is not one or less makes the scale greater just if it is finite and so is the
product, which must not be rounded back to the scale. -/
theorem lt_scale_zoomAt_iff (hanchor : anchor.isFinite = true) (hfactor : ¬factor ≤ 1) :
    v.scale < (v.zoomAt anchor factor).scale ↔
      factor.isFinite = true ∧ (v.scale * factor).isFinite = true ∧ v.scale * factor ≠ v.scale := by
  cases hfinite : factor.isFinite with
  | true =>
    have hgreat : 1 < value factor :=
      not_le.mp (mt (Double.le_one_iff_value_le hfinite).mpr hfactor)
    rw [scale_zoomAt hanchor hfinite (zero_lt_one.trans hgreat), h.lt_clampScale_iff,
      h.lt_finiteOr_iff hfinite hgreat]
    simp
  | false =>
    -- A factor that is infinite or no number is refused.
    have hrefused : isZoomFactor factor = false := Bool.and_eq_false_imp.mpr fun hcontra =>
      absurd (hfinite.symm.trans hcontra) Bool.false_ne_true
    rw [zoomAt_of_refused hrefused]
    exact iff_of_false (Double.lt_irrefl _) fun ⟨hcontra, _⟩ => Bool.false_ne_true hcontra

/-- A positive factor below one makes the scale less just if the product is not rounded back to
it. -/
theorem scale_zoomAt_lt_iff (hanchor : anchor.isFinite = true) (hfinite : factor.isFinite = true)
    (hpos : 0 < value factor) (hless : value factor < 1) :
    (v.zoomAt anchor factor).scale < v.scale ↔ v.scale * factor ≠ v.scale := by
  rw [scale_zoomAt hanchor hfinite hpos, h.clampScale_lt_iff, h.finiteOr_lt_iff hfinite hpos hless]

/-- The inverse of a step makes the scale less just if the step is finite and the product is not
rounded back to the scale. -/
theorem scale_zoomAt_inverse_lt_iff {step : Float} (hanchor : anchor.isFinite = true)
    (hstep : ¬step ≤ 1) :
    (v.zoomAt anchor (1.0 / step)).scale < v.scale ↔
      step.isFinite = true ∧ v.scale * (1.0 / step) ≠ v.scale := by
  cases hfinite : step.isFinite with
  | true =>
    have hgreat : 1 < value step := not_le.mp (mt (Double.le_one_iff_value_le hfinite).mpr hstep)
    obtain ⟨hinverse, hpos, hless⟩ := Double.inverse_of_one_lt hfinite hgreat
    rw [h.scale_zoomAt_lt_iff hanchor hinverse hpos hless]
    simp
  | false =>
    -- The inverse of an infinite step is zero, and that of no number is none.
    have hrefused : isZoomFactor (1.0 / step) = false := by
      rcases Double.inverse_of_not_isFinite hfinite with hinfinite | hpos
      · exact Bool.and_eq_false_imp.mpr fun hcontra =>
          absurd (hinfinite.symm.trans hcontra) Bool.false_ne_true
      · exact Bool.and_eq_false_imp.mpr fun _ => decide_eq_false hpos
    rw [zoomAt_of_refused hrefused]
    exact iff_of_false (Double.lt_irrefl _) fun ⟨hcontra, _⟩ => Bool.false_ne_true hcontra

end

/-! ## Scales that products are not rounded back to -/

/-- A product with a finite factor other than one is another scale, unless the scale is hardly above
zero. -/
theorem mul_ne_scale (hnormal : 2 ^ (-1022 : ℤ) < value v.scale) {factor : Float}
    (hfinite : factor.isFinite = true) (hpos : 0 < value factor) (hone : value factor ≠ 1)
    (hproduct : (v.scale * factor).isFinite = true) : v.scale * factor ≠ v.scale := by
  intro heq
  have hvalue : value (v.scale * factor) = value v.scale := congrArg value heq
  rcases hone.lt_or_gt with hless | hgreat
  · exact (Double.value_mul_lt h.isFinite_scale hfinite hnormal hpos hless).ne hvalue
  · exact (Double.value_lt_mul h.isFinite_scale hfinite hnormal.le hgreat hproduct).ne' hvalue

/-- A factor that is not one or less takes a scale that is not tiny to a greater one just if it is
finite and so is the product. -/
theorem greater_iff_of_normal (hnormal : 2 ^ (-1022 : ℤ) < value v.scale) {factor : Float}
    (hfactor : ¬factor ≤ 1) :
    (factor.isFinite = true ∧ (v.scale * factor).isFinite = true ∧ v.scale * factor ≠ v.scale) ↔
      factor.isFinite = true ∧ (v.scale * factor).isFinite = true := by
  refine and_congr_right fun hfinite => and_iff_left_of_imp fun hproduct => ?_
  have hgreat : 1 < value factor :=
    not_le.mp (mt (Double.le_one_iff_value_le hfinite).mpr hfactor)
  exact h.mul_ne_scale hnormal hfinite (zero_lt_one.trans hgreat) hgreat.ne' hproduct

/-- A positive factor below one takes a scale that is not tiny to another one. -/
theorem mul_ne_scale_of_lt_one (hnormal : 2 ^ (-1022 : ℤ) < value v.scale) {factor : Float}
    (hfinite : factor.isFinite = true) (hpos : 0 < value factor) (hless : value factor < 1) :
    v.scale * factor ≠ v.scale :=
  h.mul_ne_scale hnormal hfinite hpos hless.ne
    (Double.value_mul_le h.isFinite_scale hfinite h.scale_pos hpos hless.le).1

/-! ## The controls -/

theorem zoomIn_eq : v.zoomIn = v.zoomAt v.size.center settings.viewport.zoomStep := by
  rw [zoomIn, h.settings_eq]

theorem zoomOut_eq :
    v.zoomOut = v.zoomAt v.size.center (1.0 / settings.viewport.zoomStep) := by
  rw [zoomOut, h.settings_eq]
  rfl

theorem wheel_eq_of_neg {deltaY : Float} (hdelta : deltaY < 0.0) (anchor : Point Float) :
    v.wheel anchor deltaY = v.zoomAt anchor settings.viewport.wheelZoomIn := by
  rw [← h.settings_eq]
  exact wheel_of_not_pos v anchor fun hpos => Double.lt_irrefl _ (Double.lt_trans hdelta hpos)

theorem wheel_eq_of_pos {deltaY : Float} (hdelta : deltaY > 0.0) (anchor : Point Float) :
    v.wheel anchor deltaY = v.zoomAt anchor settings.viewport.wheelZoomOut := by
  rw [← h.settings_eq]
  exact wheel_of_pos v anchor hdelta

theorem step_not_le : ¬settings.viewport.zoomStep ≤ 1 :=
  (not_or.mp (settings.fault?_eq_none_iff.mp h.valid).2.1).1

theorem wheelZoomIn_not_le : ¬settings.viewport.wheelZoomIn ≤ 1 :=
  (not_or.mp (settings.fault?_eq_none_iff.mp h.valid).2.1).2

/-- The factor of a turn towards the user is checked by what it has to be, and so is a number. -/
theorem wheelZoomOut_between : settings.viewport.wheelZoomOut.isFinite = true ∧
    0 < value settings.viewport.wheelZoomOut ∧ value settings.viewport.wheelZoomOut < 1 := by
  obtain ⟨hpos, hless⟩ := (settings.fault?_eq_none_iff.mp h.valid).2.2.1
  have hfinite := Double.isFinite_of_between hpos hless
  exact ⟨hfinite, (Double.pos_iff_value_pos hfinite).mp hpos,
    (Double.lt_one_iff_value_lt hfinite).mp hless⟩

/-- The size of cells is checked by what it must not be, and so is positive or no number. -/
theorem cellSize_pos_iff :
    0.0 < settings.cluster.cellSize ↔ settings.cluster.cellSize.isNaN = false := by
  have hcell : ¬settings.cluster.cellSize ≤ 0.0 :=
    (settings.fault?_eq_none_iff.mp h.valid).2.2.2.1
  exact ⟨fun hpos => (Double.isNaN_of_lt hpos).2,
    fun hnumber => Double.lt_of_not_le hnumber rfl hcell⟩

end Inside

theorem isFinite_center {size : Size Float} (hwidth : size.width.isFinite = true)
    (hheight : size.height.isFinite = true) : size.center.isFinite = true :=
  Bool.and_eq_true_iff.mpr ⟨Double.isFinite_div_two hwidth, Double.isFinite_div_two hheight⟩

/-- **Which zooms go the way they should.** Whatever settings pass the check, and wherever the scale
lies properly between their bounds: moving a scale between the bounds is possible, and every zoom
ends there. A step in or a turn of the wheel away from the user makes the scale greater just if its
factor is finite and so is the product with the scale, which must not be rounded back to it; a step
out makes it less just if the step is finite and the product is not rounded back, and a turn towards
the user just if the product is not. Only a scale of `2 ^ -1022` or less is ever rounded back to.
The cells of clusters have a positive size just if their size is a number. -/
theorem zoom_direction_iff (hvalid : settings.fault? = none)
    (hsettings : v.settings = settings.viewport)
    (habove : settings.viewport.minScale < v.scale) (hbelow : v.scale < settings.viewport.maxScale)
    (hwidth : v.size.width.isFinite = true) (hheight : v.size.height.isFinite = true)
    {anchor : Point Float} (hanchor : anchor.isFinite = true) :
    let step := settings.viewport.zoomStep
    let wheelIn := settings.viewport.wheelZoomIn
    let wheelOut := settings.viewport.wheelZoomOut
    settings.viewport.minScale ≤ settings.viewport.maxScale ∧
    (∀ z : Zoom Float, settings.viewport.Allows (v.zoom z).scale) ∧
    (v.scale < v.zoomIn.scale ↔
      step.isFinite = true ∧ (v.scale * step).isFinite = true ∧ v.scale * step ≠ v.scale) ∧
    (v.zoomOut.scale < v.scale ↔ step.isFinite = true ∧ v.scale * (1.0 / step) ≠ v.scale) ∧
    (∀ deltaY < 0.0, v.scale < (v.wheel anchor deltaY).scale ↔
      wheelIn.isFinite = true ∧ (v.scale * wheelIn).isFinite = true ∧
        v.scale * wheelIn ≠ v.scale) ∧
    (∀ deltaY > 0.0, (v.wheel anchor deltaY).scale < v.scale ↔ v.scale * wheelOut ≠ v.scale) ∧
    (2 ^ (-1022 : ℤ) < value v.scale →
      (v.scale < v.zoomIn.scale ↔ step.isFinite = true ∧ (v.scale * step).isFinite = true) ∧
      (v.zoomOut.scale < v.scale ↔ step.isFinite = true) ∧
      (∀ deltaY < 0.0, v.scale < (v.wheel anchor deltaY).scale ↔
        wheelIn.isFinite = true ∧ (v.scale * wheelIn).isFinite = true) ∧
      ∀ deltaY > 0.0, (v.wheel anchor deltaY).scale < v.scale) ∧
    (0.0 < settings.cluster.cellSize ↔ settings.cluster.cellSize.isNaN = false) := by
  intro step wheelIn wheelOut
  have h : v.Inside settings := ⟨hvalid, hsettings, habove, hbelow⟩
  -- The buttons zoom around the middle of the screen, by the step or its inverse; the wheel zooms
  -- around the anchor.
  have hcenter := isFinite_center hwidth hheight
  have hin := h.lt_scale_zoomAt_iff hcenter h.step_not_le
  have hout := h.scale_zoomAt_inverse_lt_iff hcenter h.step_not_le
  have hup := h.lt_scale_zoomAt_iff hanchor h.wheelZoomIn_not_le
  obtain ⟨hfinite, hpos, hless⟩ := h.wheelZoomOut_between
  have hdown := h.scale_zoomAt_lt_iff hanchor hfinite hpos hless
  rw [← h.zoomIn_eq] at hin
  rw [← h.zoomOut_eq] at hout
  refine ⟨(settings.fault?_eq_none_iff.mp hvalid).1.2, h.allows_zoom, hin, hout,
    fun deltaY hdelta => ?_, fun deltaY hdelta => ?_,
    fun hnormal => ⟨?_, ?_, fun deltaY hdelta => ?_, fun deltaY hdelta => ?_⟩, h.cellSize_pos_iff⟩
  · rw [h.wheel_eq_of_neg hdelta]
    exact hup
  · rw [h.wheel_eq_of_pos hdelta]
    exact hdown
  · rw [hin, h.greater_iff_of_normal hnormal h.step_not_le]
  · -- The inverse of a finite step is a factor below one, also after it is rounded.
    rw [hout]
    refine and_iff_left_of_imp fun hstep => ?_
    have hgreat : 1 < value step :=
      not_le.mp (mt (Double.le_one_iff_value_le hstep).mpr h.step_not_le)
    obtain ⟨hinverse, hinversePos, hinverseLess⟩ := Double.inverse_of_one_lt hstep hgreat
    exact h.mul_ne_scale_of_lt_one hnormal hinverse hinversePos hinverseLess
  · rw [h.wheel_eq_of_neg hdelta, hup, h.greater_iff_of_normal hnormal h.wheelZoomIn_not_le]
  · rw [h.wheel_eq_of_pos hdelta, hdown]
    exact h.mul_ne_scale_of_lt_one hnormal hfinite hpos hless

/-- With the settings that are used where nothing else is asked for, every control goes its way. -/
theorem zoom_direction_standard :
    let v : Viewport Float := { new ViewportSettings.standard with size := ⟨800, 600⟩ }
    v.scale < v.zoomIn.scale ∧ v.zoomOut.scale < v.scale ∧
      v.scale < (v.wheel ⟨300, 200⟩ (-3.5)).scale ∧ (v.wheel ⟨300, 200⟩ 3.5).scale < v.scale := by
  intro v
  have hvalid : (Settings.standard : Settings Float).fault? = none := by decide +kernel
  have hanchor : (⟨300, 200⟩ : Point Float).isFinite = true := by decide +kernel
  obtain ⟨-, -, -, -, -, -, hnormal, -⟩ := zoom_direction_iff hvalid (v := v) rfl
    (by decide +kernel) (by decide +kernel) (by decide +kernel) (by decide +kernel) hanchor
  -- A new viewport has the scale one, which lies between the bounds.
  have hscale : 2 ^ (-1022 : ℤ) < value v.scale := by
    rw [show value v.scale = 1 from Double.value_one.2]
    exact zpow_lt_one_of_neg₀ one_lt_two (by decide)
  obtain ⟨hin, hout, hup, hdown⟩ := hnormal hscale
  exact ⟨hin.mpr (by decide +kernel), hout.mpr (by decide +kernel),
    (hup (-3.5) (by decide +kernel)).mpr (by decide +kernel), hdown 3.5 (by decide +kernel)⟩

/-- A step that is no number passes the check, and so does a size of cells that is none; the zoom
buttons do nothing then. A step that is very large passes too, and the button to zoom in zooms
out. -/
theorem zoom_without_direction :
    ∃ (idle huge : Settings Float) (v w : Viewport Float),
      idle.fault? = none ∧ v.settings = idle.viewport ∧ idle.viewport.minScale < v.scale ∧
      v.scale < idle.viewport.maxScale ∧ v.size = ⟨800, 600⟩ ∧
      ¬v.scale < v.zoomIn.scale ∧ ¬v.zoomOut.scale < v.scale ∧ ¬0.0 < idle.cluster.cellSize ∧
      huge.fault? = none ∧ w.settings = huge.viewport ∧ huge.viewport.minScale < w.scale ∧
      w.scale < huge.viewport.maxScale ∧ w.size = ⟨800, 600⟩ ∧ w.zoomIn.scale < w.scale := by
  let idle : Settings Float :=
    { Settings.standard with
      viewport := { ViewportSettings.standard with zoomStep := 0.0 / 0.0 }
      cluster := { ClusterSettings.standard with cellSize := 0.0 / 0.0 } }
  let huge : Settings Float :=
    { Settings.standard with
      viewport := { ViewportSettings.standard with maxScale := 1e308, zoomStep := 1e308 } }
  refine ⟨idle, huge, { new idle.viewport with size := ⟨800, 600⟩ },
    { new huge.viewport with scale := 10, size := ⟨800, 600⟩ }, ?_⟩
  exact ⟨by decide +kernel, rfl, by decide +kernel, by decide +kernel, rfl, by decide +kernel,
    by decide +kernel, by decide +kernel, by decide +kernel, rfl, by decide +kernel,
    by decide +kernel, rfl, by decide +kernel⟩

end MarkerAtlas.Viewport
