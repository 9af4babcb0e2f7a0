import MarkerAtlas.Proofs.Scalar.Value
import MarkerAtlas.Proofs.View.Zooming

/-!
# Where the scale stays

Every scale that an operation asks for is moved inside the bounds of the settings, whatever was
asked for; sizes, factors and anchors that are not finite are no exception. The scale of one that a
viewport begins with, and that it has again after a reset, is not asked for and not moved. So a run
has its scale inside the bounds just if one lies there, or if some operation has asked for a scale
since.
-/

namespace MarkerAtlas.Viewport

/-! ## Operations -/

/-- What can be done with a viewport. -/
inductive Operation (α : Type) where
  | setSize (size : Size α)
  | setPan (pan : Point α)
  | panBy (delta : Point α)
  | reset
  | fit (size mapSize : Size α)
  | zoom (z : Zoom α)
  | centerOn (world : Point α)
  | centerOnAtScale (world : Point α) (factor : α)

section
variable {α : Type} [Scalar α]

/-- The viewport after an operation. -/
def perform (v : Viewport α) : Operation α → Viewport α
  | .setSize size => v.setSize size
  | .setPan pan => v.setPan pan
  | .panBy delta => v.panBy delta
  | .reset => v.reset
  | .fit size mapSize => v.fit size mapSize
  | .zoom z => v.zoom z
  | .centerOn world => v.centerOn world
  | .centerOnAtScale world factor => v.centerOnAtScale world factor

/-- The viewport after some operations, one after another. -/
def run (v : Viewport α) (ops : List (Operation α)) : Viewport α := ops.foldl perform v

@[simp] theorem run_nil (v : Viewport α) : v.run [] = v := rfl

@[simp] theorem run_concat (v : Viewport α) (ops : List (Operation α)) (op : Operation α) :
    v.run (ops ++ [op]) = (v.run ops).perform op := List.foldl_concat _ _ _ _

/-- The scale that an operation asks for, if it asks for one. A zoom that is refused does not. -/
def asked? (v : Viewport α) : Operation α → Option α
  | .fit size mapSize => some (v.fitScale size mapSize)
  | .zoom z =>
    if (z.anchor v.size).isFinite && isZoomFactor (z.factor v.settings) then
      some (v.scale * z.factor v.settings)
    else none
  | .centerOnAtScale _ factor => if isZoomFactor factor then some (v.scale * factor) else none
  | _ => none

theorem settings_perform (v : Viewport α) (op : Operation α) :
    (v.perform op).settings = v.settings := by
  cases op with
  | setSize size => rfl
  | setPan pan => exact (v.panned_setPan pan).settings
  | panBy delta => exact (v.panned_setPan _).settings
  | reset => rfl
  | fit size mapSize => rfl
  | zoom z => exact (v.sameScreen_zoom z).settings
  | centerOn world => exact (v.panned_centerOn world).settings
  | centerOnAtScale world factor => exact (v.sameScreen_centerOnAtScale world factor).settings

theorem settings_run (v : Viewport α) (ops : List (Operation α)) :
    (v.run ops).settings = v.settings := by
  induction ops using List.reverseRecOn with
  | nil => rfl
  | append_singleton ops op ih => rw [run_concat, settings_perform, ih]

/-- A scale that is asked for is set, moved inside the bounds. -/
theorem scale_perform_of_asked {v : Viewport α} {op : Operation α} {x : α}
    (h : v.asked? op = some x) : (v.perform op).scale = v.clampScale x := by
  cases op with
  | fit size mapSize =>
    obtain rfl := Option.some.inj h
    rfl
  | zoom z =>
    obtain ⟨htaken, heq⟩ := Option.ite_none_right_eq_some.mp h
    obtain rfl := Option.some.inj heq
    show (v.zoom z).scale = _
    rw [zoom_eq, zoomAt, if_pos htaken]
  | centerOnAtScale world factor =>
    obtain ⟨htaken, heq⟩ := Option.ite_none_right_eq_some.mp h
    obtain rfl := Option.some.inj heq
    show (v.centerOnAtScale world factor).scale = _
    rw [centerOnAtScale, if_pos htaken, (panned_centerOn _ world).scale]
  | _ => cases h

/-- Where no scale is asked for, only a reset changes it. -/
theorem scale_perform_of_not_asked {v : Viewport α} {op : Operation α} (h : v.asked? op = none)
    (hop : op ≠ .reset) : (v.perform op).scale = v.scale := by
  cases op with
  | setSize size => rfl
  | setPan pan => exact (v.panned_setPan pan).scale
  | panBy delta => exact (v.panned_setPan _).scale
  | reset => exact absurd rfl hop
  | fit size mapSize => cases h
  | zoom z =>
    have hrefused := mt (ite_eq_right_iff.mp h) (Option.some_ne_none _)
    show (v.zoom z).scale = _
    rw [zoom_eq, zoomAt, if_neg hrefused]
  | centerOn world => exact (v.panned_centerOn world).scale
  | centerOnAtScale world factor =>
    have hrefused := mt (ite_eq_right_iff.mp h) (Option.some_ne_none _)
    show (v.centerOnAtScale world factor).scale = _
    rw [centerOnAtScale, if_neg hrefused, (panned_centerOn _ world).scale]

/-! ## Runs -/

/-- Some operation of the run has asked for a scale, and no reset came after it. -/
def Rescaled (v : Viewport α) (ops : List (Operation α)) : Prop :=
  ∃ before op after x, ops = before ++ op :: after ∧ (v.run before).asked? op = some x ∧
    Operation.reset ∉ after

theorem rescaled_concat_iff {v : Viewport α} {ops : List (Operation α)} {op : Operation α} :
    v.Rescaled (ops ++ [op]) ↔
      (∃ x, (v.run ops).asked? op = some x) ∨ op ≠ .reset ∧ v.Rescaled ops := by
  constructor
  · rintro ⟨before, op', after, x, heq, hx, hreset⟩
    -- The operation that asked is the last one, or it came before the last one.
    rcases List.eq_nil_or_concat after with rfl | ⟨after, last, rfl⟩
    · obtain ⟨rfl, hop⟩ := List.append_inj' heq rfl
      obtain rfl : op = op' := List.singleton_inj.mp hop
      exact .inl ⟨x, hx⟩
    · rw [List.concat_eq_append, ← List.cons_append, ← List.append_assoc] at heq
      obtain ⟨rfl, hop⟩ := List.append_inj' heq rfl
      obtain rfl : op = last := List.singleton_inj.mp hop
      rw [List.concat_eq_append, List.mem_append, List.mem_singleton, not_or] at hreset
      exact .inr ⟨Ne.symm hreset.2, before, op', after, x, rfl, hx, hreset.1⟩
  · rintro (⟨x, hx⟩ | ⟨hop, before, op', after, x, rfl, hx, hreset⟩)
    · exact ⟨ops, op, [], x, rfl, hx, List.not_mem_nil⟩
    · refine ⟨before, op', after ++ [op], x, by rw [List.append_assoc, List.cons_append], hx, ?_⟩
      rw [List.mem_append, List.mem_singleton, not_or]
      exact ⟨hreset, Ne.symm hop⟩

/-- A viewport whose scale was not asked for shows the world as it is. -/
theorem scale_run_of_not_rescaled {v : Viewport α} (hv : v.scale = 1) {ops : List (Operation α)}
    (h : ¬v.Rescaled ops) : (v.run ops).scale = 1 := by
  induction ops using List.reverseRecOn with
  | nil => exact hv
  | append_singleton ops op ih =>
    rw [rescaled_concat_iff, not_or, not_exists, not_and] at h
    obtain ⟨hasked, hbefore⟩ := h
    rw [run_concat]
    by_cases hop : op = .reset
    · rw [hop]
      rfl
    · rw [scale_perform_of_not_asked (Option.eq_none_iff_forall_ne_some.mpr hasked) hop]
      exact ih (hbefore hop)

end

/-! ## Doubles -/

variable {settings : Settings Float} {v : Viewport Float}

/-- What is asked for may be any double: moved inside the bounds it lies there. -/
theorem allows_clampScale (hvalid : settings.fault? = none)
    (hsettings : v.settings = settings.viewport) (x : Float) :
    settings.viewport.Allows (v.clampScale x) := by
  -- NaN is in no order to the bounds; it is replaced before the scale is clamped.
  have hnumber : (Scalar.finiteOr x 1).isNaN = false := by
    unfold Scalar.finiteOr
    split
    · next hfinite => exact Double.isNaN_of_isFinite hfinite
    · rfl
  have hbounds := (settings.fault?_eq_none_iff.mp hvalid).1.2
  rw [← hsettings] at hbounds ⊢
  exact Double.clamp_between hnumber hbounds

theorem Rescaled.allows (hvalid : settings.fault? = none)
    (hsettings : v.settings = settings.viewport) {ops : List (Operation Float)}
    (h : v.Rescaled ops) : settings.viewport.Allows (v.run ops).scale := by
  induction ops using List.reverseRecOn with
  | nil =>
    obtain ⟨before, op, after, x, heq, -⟩ := h
    exact absurd heq (List.append_ne_nil_of_right_ne_nil _ (List.cons_ne_nil _ _)).symm
  | append_singleton ops op ih =>
    rw [run_concat]
    -- Either the last operation asks for a scale, or the scale is still the one from before.
    cases hasked : (v.run ops).asked? op with
    | some x =>
      rw [scale_perform_of_asked hasked]
      exact allows_clampScale hvalid ((v.settings_run ops).trans hsettings) x
    | none =>
      obtain ⟨x, hx⟩ | ⟨hop, hbefore⟩ := rescaled_concat_iff.mp h
      · rw [hasked] at hx
        cases hx
      · rw [scale_perform_of_not_asked hasked hop]
        exact ih hbefore

/-- **The scale stays inside its bounds once it is asked for.** Whatever is done with a viewport
from its beginning on, and with whatever arguments, its scale lies inside the bounds of its settings
just if the scale of one does, which it has in the beginning and after each reset, or if some
operation has asked for a scale since. -/
theorem scale_in_bounds_iff (hvalid : settings.fault? = none) (ops : List (Operation Float)) :
    settings.viewport.Allows ((new settings.viewport).run ops).scale ↔
      settings.viewport.Allows 1 ∨ (new settings.viewport).Rescaled ops := by
  by_cases h : (new settings.viewport).Rescaled ops
  · exact iff_of_true (h.allows hvalid rfl) (.inr h)
  · have hone : ((new settings.viewport).run ops).scale = 1 := scale_run_of_not_rescaled rfl h
    rw [hone, or_iff_left h]

/-- Bounds that leave no choice: the scale comes to them with the first step in. -/
theorem scale_in_bounds_after_step :
    ∃ settings : Settings Float, settings.fault? = none ∧
      (new settings.viewport).Rescaled [.reset, .zoom .stepIn, .setSize ⟨800, 600⟩] ∧
      settings.viewport.Allows
        ((new settings.viewport).run [.reset, .zoom .stepIn, .setSize ⟨800, 600⟩]).scale := by
  let bounds : ViewportSettings Float :=
    { ViewportSettings.standard with minScale := 2, maxScale := 2 }
  let settings : Settings Float := { Settings.standard with viewport := bounds }
  have hvalid : settings.fault? = none := by decide +kernel
  have hrescaled :
      (new settings.viewport).Rescaled [.reset, .zoom .stepIn, .setSize ⟨800, 600⟩] := by
    refine ⟨[.reset], .zoom .stepIn, [.setSize ⟨800, 600⟩], 1 * settings.viewport.zoomStep, rfl,
      ?_, ?_⟩
    · refine if_pos ?_
      decide +kernel
    · simp
  exact ⟨settings, hvalid, hrescaled, (scale_in_bounds_iff hvalid _).mpr (.inr hrescaled)⟩

/-- A viewport begins with the scale of one, also where the bounds of its settings do not allow it,
and a reset takes it out of the bounds again. -/
theorem scale_out_of_bounds :
    ∃ settings : Settings Float, settings.fault? = none ∧
      settings.viewport.minScale = 2 ∧ settings.viewport.maxScale = 2 ∧
      ((new settings.viewport).run []).scale = 1 ∧
      ((new settings.viewport).run [.zoom .stepIn]).scale = 2 ∧
      ((new settings.viewport).run [.zoom .stepIn, .reset]).scale = 1 ∧
      ¬∀ ops, settings.viewport.Allows ((new settings.viewport).run ops).scale := by
  let bounds : ViewportSettings Float :=
    { ViewportSettings.standard with minScale := 2, maxScale := 2 }
  refine ⟨{ Settings.standard with viewport := bounds }, by decide +kernel, rfl, rfl, rfl, ?_, rfl,
    ?_⟩
  · decide +kernel
  · intro h
    exact absurd (h []).1 (by decide +kernel)

end MarkerAtlas.Viewport
