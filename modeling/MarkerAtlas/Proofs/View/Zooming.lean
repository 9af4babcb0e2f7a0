import Mathlib
import MarkerAtlas.Proofs.Scalar.Exact
import MarkerAtlas.Proofs.View.Viewport

/-!
# Zooming around a point

A zoom sets the scale, and then pans so that the world point under its anchor stays there. The pan
follows the scale that is reached, and not the one that was asked for. In exact arithmetic the point
therefore stays also where a bound stops the zoom, and a run of zooms around one anchor that no
bound stops comes back to where it began if its factors cancel out.
-/

namespace MarkerAtlas

variable {α : Type}

/-! ## Ways to zoom -/

/-- A way to zoom: by any factor, by a turn of the wheel, or by one step. -/
inductive Zoom (α : Type) where
  | byFactor (anchor : Point α) (factor : α)
  | wheel (anchor : Point α) (deltaY : α)
  | stepIn
  | stepOut

namespace Zoom

variable [Scalar α]

/-- The point of the screen that the zoom is around. -/
def anchor (size : Size α) : Zoom α → Point α
  | byFactor anchor _ => anchor
  | wheel anchor _ => anchor
  | stepIn => size.center
  | stepOut => size.center

/-- The factor that the zoom asks for. -/
def factor (settings : ViewportSettings α) : Zoom α → α
  | byFactor _ factor => factor
  | wheel _ deltaY => if deltaY > 0 then settings.wheelZoomOut else settings.wheelZoomIn
  | stepIn => settings.zoomStep
  | stepOut => 1 / settings.zoomStep

/-- The zoom is around the anchor, and a factor that it brings along is one to zoom by. -/
def Around (size : Size α) (anchor : Point α) : Zoom α → Prop
  | byFactor a factor => a = anchor ∧ factor > 0
  | wheel a _ => a = anchor
  | stepIn => size.center = anchor
  | stepOut => size.center = anchor

theorem Around.anchor_eq {size : Size α} {anchor : Point α} {z : Zoom α}
    (h : z.Around size anchor) :
    z.anchor size = anchor := by
  cases z with
  | byFactor a factor => exact h.1
  | wheel a deltaY => exact h
  | stepIn => exact h
  | stepOut => exact h

end Zoom

/-- The bounds leave the scale as it is. -/
def ViewportSettings.Allows [Scalar α] (s : ViewportSettings α) (scale : α) : Prop :=
  s.minScale ≤ scale ∧ scale ≤ s.maxScale

theorem Settings.fault?_standard {K : Type} [ExactField K] :
    (Settings.standard : Settings K).fault? = none := by
  rw [fault?_eq_none_iff]
  simp only [standard, ViewportSettings.standard, ClusterSettings.standard, RouteSettings.standard]
  norm_num

namespace Viewport

section
variable [Scalar α]

/-- Zooms in one of the ways. -/
def zoom (v : Viewport α) : Zoom α → Viewport α
  | .byFactor anchor factor => v.zoomAt anchor factor
  | .wheel anchor deltaY => v.wheel anchor deltaY
  | .stepIn => v.zoomIn
  | .stepOut => v.zoomOut

/-- Every way to zoom is by a factor around an anchor. -/
theorem zoom_eq (v : Viewport α) (z : Zoom α) :
    v.zoom z = v.zoomAt (z.anchor v.size) (z.factor v.settings) := by
  cases z <;> rfl

theorem sameScreen_zoom (v : Viewport α) (z : Zoom α) : v.SameScreen (v.zoom z) := by
  rw [zoom_eq]
  exact v.sameScreen_zoomAt _ _

/-- Zooms again and again. -/
def zooms (v : Viewport α) (zs : List (Zoom α)) : Viewport α := zs.foldl zoom v

@[simp] theorem zooms_nil (v : Viewport α) : v.zooms [] = v := rfl

@[simp] theorem zooms_concat (v : Viewport α) (zs : List (Zoom α)) (z : Zoom α) :
    v.zooms (zs ++ [z]) = (v.zooms zs).zoom z := List.foldl_concat _ _ _ _

theorem sameScreen_zooms (v : Viewport α) (zs : List (Zoom α)) : v.SameScreen (v.zooms zs) := by
  induction zs using List.reverseRecOn with
  | nil => exact .refl v
  | append_singleton zs z ih =>
    rw [zooms_concat]
    exact ih.trans (sameScreen_zoom _ z)

end

/-! ## One zoom in exact arithmetic -/

variable {K : Type} [ExactField K]

/-- Screen and world points are taken to each other and back without loss. -/
def Faithful (v : Viewport K) : Prop :=
  Function.LeftInverse v.screenToWorld v.worldToScreen ∧
    Function.RightInverse v.screenToWorld v.worldToScreen

theorem faithful_of_scale_ne_zero {v : Viewport K} (h : v.scale ≠ 0) : v.Faithful := by
  have hback (pan x : K) : (pan + x * v.scale - pan) * (1 / v.scale) = x := by
    field_simp
    ring
  have hforth (pan x : K) : pan + (x - pan) * (1 / v.scale) * v.scale = x := by
    field_simp
    ring
  exact ⟨fun world => congrArg₂ Point.mk (hback v.pan.x world.x) (hback v.pan.y world.y),
    fun screen => congrArg₂ Point.mk (hforth v.pan.x screen.x) (hforth v.pan.y screen.y)⟩

theorem worldToScreen_eq_iff {v : Viewport K} {world screen : Point K} :
    v.worldToScreen world = screen ↔ v.pan = screen - world.scale v.scale := by
  show (⟨v.pan.x + world.x * v.scale, v.pan.y + world.y * v.scale⟩ : Point K) =
      ⟨screen.x, screen.y⟩ ↔
    (⟨v.pan.x, v.pan.y⟩ : Point K) =
      ⟨screen.x - world.x * v.scale, screen.y - world.y * v.scale⟩
  rw [Point.mk.injEq, Point.mk.injEq, eq_sub_iff_add_eq, eq_sub_iff_add_eq]

/-- A world point is under a screen point for one pan only. -/
theorem screenToWorld_eq_iff {v : Viewport K} (h : v.scale ≠ 0) {world screen : Point K} :
    v.screenToWorld screen = world ↔ v.pan = screen - world.scale v.scale := by
  obtain ⟨hback, hforth⟩ := faithful_of_scale_ne_zero h
  rw [← worldToScreen_eq_iff]
  constructor
  · rintro rfl
    exact hforth screen
  · rintro rfl
    exact hback world

section
variable (v : Viewport K) (x : K)

theorem clampScale_eq :
    v.clampScale x = min (max x v.settings.minScale) v.settings.maxScale := by
  rw [clampScale, ExactField.finiteOr_eq, ExactField.clamp_eq]

variable {v x}

theorem clampScale_pos (hpos : 0 < v.settings.minScale)
    (hle : v.settings.minScale ≤ v.settings.maxScale) : 0 < v.clampScale x := by
  rw [clampScale_eq]
  exact lt_min (lt_max_of_lt_right hpos) (hpos.trans_le hle)

theorem clampScale_eq_self (h : v.settings.Allows x) : v.clampScale x = x := by
  obtain ⟨hmin, hmax⟩ := h
  rw [clampScale_eq, max_eq_left hmin, min_eq_left hmax]

end

theorem zoomAt_of_pos (v : Viewport K) (anchor : Point K) {factor : K} (h : 0 < factor) :
    v.zoomAt anchor factor =
      { v with
        scale := v.clampScale (v.scale * factor)
        pan := anchor - (v.screenToWorld anchor).scale (v.clampScale (v.scale * factor)) } := by
  have htaken : (anchor.isFinite && isZoomFactor factor) = true := decide_eq_true h
  rw [zoomAt, if_pos htaken]

theorem scale_zoom {v : Viewport K} {z : Zoom K} (h : 0 < z.factor v.settings) :
    (v.zoom z).scale = v.clampScale (v.scale * z.factor v.settings) := by
  rw [zoom_eq, zoomAt_of_pos v _ h]

/-- The world point under the anchor is the same after a zoom, whatever scale it comes to. -/
theorem screenToWorld_zoom {v : Viewport K} {z : Zoom K} (h : 0 < z.factor v.settings)
    (hscale : (v.zoom z).scale ≠ 0) :
    (v.zoom z).screenToWorld (z.anchor v.size) = v.screenToWorld (z.anchor v.size) := by
  rw [screenToWorld_eq_iff hscale, scale_zoom h, zoom_eq, zoomAt_of_pos v _ h]

/-! ## Runs of zooms -/

/-- The factors that faultless settings zoom by are positive. -/
theorem factor_pos_of_around {settings : Settings K} (hvalid : settings.fault? = none)
    {size : Size K} {anchor : Point K} {z : Zoom K} (h : z.Around size anchor) :
    0 < z.factor settings.viewport := by
  obtain ⟨-, hin, ⟨hout, -⟩, -⟩ := settings.fault?_eq_none_iff.mp hvalid
  obtain ⟨hstep, hwheel⟩ := not_or.mp hin
  have hstep : 0 < settings.viewport.zoomStep := zero_lt_one.trans (not_le.mp hstep)
  have hwheel : 0 < settings.viewport.wheelZoomIn := zero_lt_one.trans (not_le.mp hwheel)
  -- The factors of the settings are positive by their checks; any other one is positive where the
  -- zoom is around an anchor.
  cases z with
  | byFactor a factor => exact h.2
  | wheel a deltaY =>
    show 0 < if deltaY > 0 then settings.viewport.wheelZoomOut else settings.viewport.wheelZoomIn
    split
    · exact hout
    · exact hwheel
  | stepIn => exact hstep
  | stepOut => exact one_div_pos.mpr hstep

/-- The view `w` shows the same world point under the anchor as `v`, at some positive scale. -/
structure ZoomedAround (v : Viewport K) (anchor : Point K) (w : Viewport K) : Prop
    extends v.SameScreen w where
  scale_pos : 0 < w.scale
  anchored : w.screenToWorld anchor = v.screenToWorld anchor

variable {settings : Settings K} {v w : Viewport K} {anchor : Point K} {z : Zoom K}
  {zs : List (Zoom K)}

theorem ZoomedAround.zoom (h : v.ZoomedAround anchor w) (hvalid : settings.fault? = none)
    (hsettings : v.settings = settings.viewport) (hz : z.Around v.size anchor) :
    v.ZoomedAround anchor (w.zoom z) := by
  have hw : w.settings = settings.viewport := h.settings.trans hsettings
  obtain ⟨⟨hmin, hle⟩, -⟩ := settings.fault?_eq_none_iff.mp hvalid
  rw [← hw] at hmin hle
  have hfactor : 0 < z.factor w.settings := hw ▸ factor_pos_of_around hvalid hz
  have hanchor : z.anchor w.size = anchor := h.size ▸ hz.anchor_eq
  have hscale : 0 < (w.zoom z).scale := by
    rw [scale_zoom hfactor]
    exact clampScale_pos hmin hle
  refine ⟨h.toSameScreen.trans (w.sameScreen_zoom z), hscale, ?_⟩
  -- The zoom may be stopped by a bound: the anchor stays at whatever scale is reached.
  have hkept := screenToWorld_zoom hfactor hscale.ne'
  rw [hanchor] at hkept
  exact hkept.trans h.anchored

theorem zoomedAround_zooms (hvalid : settings.fault? = none)
    (hsettings : v.settings = settings.viewport) (hscale : 0 < v.scale)
    (hzs : ∀ z ∈ zs, z.Around v.size anchor) : v.ZoomedAround anchor (v.zooms zs) := by
  induction zs using List.reverseRecOn with
  | nil => exact ⟨.refl v, hscale, rfl⟩
  | append_singleton zs z ih =>
    rw [zooms_concat]
    have hbefore := ih fun y hy => hzs y (List.mem_append_left _ hy)
    exact hbefore.zoom hvalid hsettings (hzs z (List.mem_concat_self))

/-- No bound stops any of the zooms. -/
def Unstopped (v : Viewport K) (zs : List (Zoom K)) : Prop :=
  ∀ before z, before ++ [z] <+: zs →
    v.settings.Allows ((v.zooms before).scale * z.factor v.settings)

theorem unstopped_nil : v.Unstopped [] := by
  intro before z h
  exact absurd (List.prefix_nil.mp h) (List.append_ne_nil_of_right_ne_nil _ (List.cons_ne_nil _ _))

theorem unstopped_concat_iff : v.Unstopped (zs ++ [z]) ↔
    v.Unstopped zs ∧ v.settings.Allows ((v.zooms zs).scale * z.factor v.settings) := by
  constructor
  · intro h
    exact ⟨fun before y hy => h before y (hy.trans (List.prefix_append zs [z])),
      h zs z (List.prefix_refl _)⟩
  · rintro ⟨h, hlast⟩ before y hy
    rcases List.prefix_concat_iff.mp hy with heq | hy
    · obtain ⟨rfl, hyz⟩ := List.append_inj' heq rfl
      obtain rfl : y = z := List.singleton_inj.mp hyz
      exact hlast
    · exact h before y hy

/-- Where no bound stops them, the factors are multiplied. -/
theorem Unstopped.scale_zooms (h : v.Unstopped zs) (hpos : ∀ z ∈ zs, 0 < z.factor v.settings) :
    (v.zooms zs).scale = v.scale * (zs.map (Zoom.factor v.settings)).prod := by
  -- By induction from the last zoom on, which finds the scale that those before it have left.
  induction zs using List.reverseRecOn with
  | nil => rw [zooms_nil, List.map_nil, List.prod_nil, mul_one]
  | append_singleton zs z ih =>
    obtain ⟨hbefore, hallowed⟩ := unstopped_concat_iff.mp h
    have hscale := ih hbefore fun y hy => hpos y (List.mem_append_left _ hy)
    -- The bounds and the steps are those of `v`, since no zoom changes the settings.
    have hsame : (v.zooms zs).settings = v.settings := (v.sameScreen_zooms zs).settings
    have hfactor : 0 < z.factor (v.zooms zs).settings := hsame ▸ hpos z List.mem_concat_self
    have hallowed : (v.zooms zs).settings.Allows ((v.zooms zs).scale * z.factor v.settings) :=
      hsame ▸ hallowed
    rw [zooms_concat, scale_zoom hfactor, hsame, clampScale_eq_self hallowed, hscale,
      List.map_append, List.prod_append, List.map_singleton, List.prod_singleton, mul_assoc]

/-- **Zooming keeps the anchor.** Zooms around one anchor, in whatever order and stopped by a bound
or not, all leave the world point under the anchor where it is. Each comes to the scale it asks for,
moved inside the bounds, and at every scale the screen can be taken to the world and back. If no
bound stops any of them and their factors cancel out, the view is in the end what it was. -/
theorem zooming_keeps_anchor (hvalid : settings.fault? = none)
    (hsettings : v.settings = settings.viewport) (hscale : 0 < v.scale)
    (hzs : ∀ z ∈ zs, z.Around v.size anchor) :
    (∀ before, before <+: zs →
      (v.zooms before).screenToWorld anchor = v.screenToWorld anchor ∧
        (v.zooms before).Faithful) ∧
    (∀ before z, before ++ [z] <+: zs →
      (v.zooms (before ++ [z])).scale =
        min (max ((v.zooms before).scale * z.factor v.settings) v.settings.minScale)
          v.settings.maxScale) ∧
    (v.Unstopped zs → (zs.map (Zoom.factor v.settings)).prod = 1 → v.zooms zs = v) := by
  have hfactor : ∀ z ∈ zs, 0 < z.factor v.settings := by
    intro z hz
    rw [hsettings]
    exact factor_pos_of_around hvalid (hzs z hz)
  refine ⟨?_, ?_, ?_⟩
  · intro before hbefore
    have hzoomed := zoomedAround_zooms hvalid hsettings hscale fun z hz => hzs z (hbefore.subset hz)
    exact ⟨hzoomed.anchored, faithful_of_scale_ne_zero hzoomed.scale_pos.ne'⟩
  · intro before z hbefore
    have hsame : (v.zooms before).settings = v.settings := (v.sameScreen_zooms before).settings
    have hz : z ∈ zs := hbefore.subset List.mem_concat_self
    -- The zooms before have changed the scale, but neither the bounds nor the factors.
    rw [zooms_concat, scale_zoom (hsame ▸ hfactor z hz), clampScale_eq, hsame]
  · -- Scale and anchored world point settle the pan.
    intro hunstopped hprod
    have hzoomed := zoomedAround_zooms hvalid hsettings hscale hzs
    have hsame : (v.zooms zs).scale = v.scale := by
      rw [hunstopped.scale_zooms hfactor, hprod, mul_one]
    have hpan := (screenToWorld_eq_iff hzoomed.scale_pos.ne').mp hzoomed.anchored
    rw [hsame, ← (screenToWorld_eq_iff hscale.ne').mp rfl] at hpan
    rw [hzoomed.toSameScreen.eq, hsame, hpan]

/-- Around the middle of the screen: a zoom that the upper bound stops, with a step out behind it,
keeps the world point there, and a step in with a step out behind it changes nothing. -/
theorem zoom_in_and_out :
    ∃ (settings : Settings ℝ) (v : Viewport ℝ) (anchor : Point ℝ), settings.fault? = none ∧
      v.settings = settings.viewport ∧ 0 < v.scale ∧
      (∀ z ∈ [Zoom.byFactor anchor 100, .stepOut], z.Around v.size anchor) ∧
      (v.zooms [.byFactor anchor 100]).scale = 6 ∧
      (v.zooms [.byFactor anchor 100, .stepOut]).screenToWorld anchor = v.screenToWorld anchor ∧
      (∀ z ∈ [Zoom.stepIn, .stepOut], z.Around v.size anchor) ∧
      v.Unstopped [.stepIn, .stepOut] ∧ v.zooms [.stepIn, .stepOut] = v := by
  let v : Viewport ℝ := ⟨1, ⟨30, -12⟩, ⟨800, 600⟩, ViewportSettings.standard⟩
  let anchor : Point ℝ := v.size.center
  have hscale : 0 < v.scale := by norm_num [v]
  have hstopped : ∀ z ∈ [Zoom.byFactor anchor 100, .stepOut], z.Around v.size anchor := by
    simp [Zoom.Around, anchor]
  have hstep : ∀ z ∈ [Zoom.stepIn, .stepOut], z.Around v.size anchor := by
    simp [Zoom.Around, anchor]
  obtain ⟨hkept, hscales, -⟩ :=
    zooming_keeps_anchor Settings.fault?_standard rfl hscale hstopped
  obtain ⟨-, hsteps, hback⟩ :=
    zooming_keeps_anchor Settings.fault?_standard rfl hscale hstep
  -- The first zoom asks for a scale of 100 and is stopped at 6.
  have hlimit : (v.zooms [.byFactor anchor 100]).scale = 6 := by
    refine (hscales [] (.byFactor anchor 100) (by simp)).trans ?_
    norm_num [v, Zoom.factor, ViewportSettings.standard]
  have hin : (v.zooms [.stepIn]).scale = 115 / 100 := by
    refine (hsteps [] .stepIn (by simp)).trans ?_
    norm_num [v, Zoom.factor, ViewportSettings.standard]
  have hfirst : v.Unstopped [.stepIn] := by
    show v.Unstopped ([] ++ [.stepIn])
    refine unstopped_concat_iff.mpr ⟨unstopped_nil, ?_⟩
    norm_num [v, ViewportSettings.Allows, Zoom.factor, ViewportSettings.standard]
  -- Neither step comes near a bound, and their factors are inverse to each other.
  have hunstopped : v.Unstopped [.stepIn, .stepOut] := by
    show v.Unstopped ([.stepIn] ++ [.stepOut])
    refine unstopped_concat_iff.mpr ⟨hfirst, ?_⟩
    rw [hin]
    norm_num [v, ViewportSettings.Allows, Zoom.factor, ViewportSettings.standard]
  refine ⟨Settings.standard, v, anchor, Settings.fault?_standard, rfl, hscale, hstopped, hlimit,
    (hkept _ (List.prefix_refl _)).1, hstep, hunstopped, hback hunstopped ?_⟩
  norm_num [v, Zoom.factor, ViewportSettings.standard]

end Viewport

end MarkerAtlas
