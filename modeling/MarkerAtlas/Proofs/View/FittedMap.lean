import MarkerAtlas.Proofs.View.Culling
import MarkerAtlas.Proofs.View.Zooming

/-!
# A fitted map is shown as a whole

Fitting takes the smaller of the scales at which the map fills the width and the height of the
screen but for the margin, and puts the map in the middle. The smaller scale is the one for the axis
that is tighter; on the other axis more than the margin is left. So unless the lower bound makes the
map larger than it is to be, all of it lies on the screen, and so do all of its markers.
-/

namespace MarkerAtlas

variable {K : Type} [ExactField K]

/-- The part of the world that a map covers. -/
def Size.area (mapSize : Size K) : Box K := ⟨0, 0, mapSize.width, mapSize.height⟩

namespace Viewport

/-! ## One axis -/

section
variable {screen map margin scale x : K}

/-- The middle of the map is drawn in the middle of the screen, at whatever scale. -/
theorem middle_eq (screen map scale : K) :
    (screen - map * scale) / 2 + map / 2 * scale = screen / 2 := by ring

theorem margin_le_near (hfits : map * scale ≤ screen - margin) (hscale : 0 ≤ scale) (hx : 0 ≤ x) :
    margin / 2 ≤ (screen - map * scale) / 2 + x * scale := by
  have hpart : 0 ≤ x * scale := mul_nonneg hx hscale
  linarith

theorem far_le_margin (hfits : map * scale ≤ screen - margin) (hscale : 0 ≤ scale) (hx : x ≤ map) :
    (screen - map * scale) / 2 + x * scale ≤ screen - margin / 2 := by
  have hpart : x * scale ≤ map * scale := mul_le_mul_of_nonneg_right hx hscale
  linarith

/-- At the scale at which the map fills the axis, its edges are drawn at the margins. -/
theorem edges_of_filled (hfilled : map * scale = screen - margin) :
    (screen - map * scale) / 2 + 0 * scale = margin / 2 ∧
      (screen - map * scale) / 2 + map * scale = screen - margin / 2 := by
  constructor <;> linarith

end

/-! ## Both axes -/

variable {v : Viewport K} {size mapSize : Size K}

theorem size_setSize (hwidth : 1 ≤ size.width) (hheight : 1 ≤ size.height) :
    (v.setSize size).size = size :=
  congrArg₂ Size.mk (max_eq_left (zero_le_one.trans hwidth))
    (max_eq_left (zero_le_one.trans hheight))

section
variable (hwidth : 1 ≤ size.width) (hheight : 1 ≤ size.height)
include hwidth hheight

theorem fitScale_eq : v.fitScale size mapSize =
    min ((size.width - v.settings.fitPadding) / mapSize.width)
      ((size.height - v.settings.fitPadding) / mapSize.height) := by
  simp only [fitScale, size_setSize hwidth hheight, ExactField.greatest_eq_max, max_eq_left hwidth,
    max_eq_left hheight, ExactField.least_eq_min]

theorem pan_fit : (v.fit size mapSize).pan =
    ⟨(size.width - mapSize.width * (v.fit size mapSize).scale) / 2,
      (size.height - mapSize.height * (v.fit size mapSize).scale) / 2⟩ := by
  simp only [fit, size_setSize hwidth hheight, ExactField.greatest_eq_max, max_eq_left hwidth,
    max_eq_left hheight, ExactField.two_eq]

theorem size_fit : (v.fit size mapSize).size = size :=
  size_setSize (v := v) hwidth hheight

/-- The middle of the map comes to the middle of the screen. -/
theorem worldToScreen_fit_center :
    (v.fit size mapSize).worldToScreen mapSize.center = size.center := by
  unfold Size.center worldToScreen
  rw [pan_fit hwidth hheight, ExactField.two_eq]
  exact congrArg₂ Point.mk (middle_eq _ _ _) (middle_eq _ _ _)

/-- At a scale no larger than the one that was asked for, the map leaves the margin on both axes. -/
theorem fits_of_le_fitScale {scale : K} (hmapWidth : 0 < mapSize.width)
    (hmapHeight : 0 < mapSize.height) (hle : scale ≤ v.fitScale size mapSize) :
    mapSize.width * scale ≤ size.width - v.settings.fitPadding ∧
      mapSize.height * scale ≤ size.height - v.settings.fitPadding := by
  rw [fitScale_eq hwidth hheight, le_min_iff] at hle
  exact ⟨(le_div_iff₀' hmapWidth).mp hle.1, (le_div_iff₀' hmapHeight).mp hle.2⟩

/-- The scale that was asked for fills the width or the height. -/
theorem filled_of_eq_fitScale {scale : K} (hmapWidth : 0 < mapSize.width)
    (hmapHeight : 0 < mapSize.height) (heq : scale = v.fitScale size mapSize) :
    mapSize.width * scale = size.width - v.settings.fitPadding ∨
      mapSize.height * scale = size.height - v.settings.fitPadding := by
  rw [fitScale_eq hwidth hheight] at heq
  rcases min_choice ((size.width - v.settings.fitPadding) / mapSize.width)
    ((size.height - v.settings.fitPadding) / mapSize.height) with hmin | hmin
  · rw [heq, hmin]
    exact .inl (mul_div_cancel₀ _ hmapWidth.ne')
  · rw [heq, hmin]
    exact .inr (mul_div_cancel₀ _ hmapHeight.ne')

/-- The whole map is drawn between the margins. -/
theorem onScreen_fit (hmapWidth : 0 < mapSize.width) (hmapHeight : 0 < mapSize.height)
    (hscale : 0 ≤ (v.fit size mapSize).scale)
    (hle : (v.fit size mapSize).scale ≤ v.fitScale size mapSize) {p : Point K}
    (hp : mapSize.area.Encloses p) :
    (v.fit size mapSize).OnScreen (-(v.settings.fitPadding / 2))
      ((v.fit size mapSize).worldToScreen p) := by
  obtain ⟨hleft, hright, htop, hbottom⟩ := hp
  obtain ⟨hfitsWidth, hfitsHeight⟩ := fits_of_le_fitScale hwidth hheight hmapWidth hmapHeight hle
  rw [onScreen_iff, size_fit hwidth hheight, neg_neg, worldToScreen, pan_fit hwidth hheight,
    ← sub_eq_add_neg, ← sub_eq_add_neg]
  exact ⟨margin_le_near hfitsWidth hscale hleft, far_le_margin hfitsWidth hscale hright,
    margin_le_near hfitsHeight hscale htop, far_le_margin hfitsHeight hscale hbottom⟩

end

/-- The map is drawn from one margin to the other, across the screen or down it. -/
def Fills (v : Viewport K) (mapSize : Size K) (margin : K) : Prop :=
  ((v.worldToScreen ⟨0, 0⟩).x = margin ∧
    (v.worldToScreen ⟨mapSize.width, mapSize.height⟩).x = v.size.width - margin) ∨
  ((v.worldToScreen ⟨0, 0⟩).y = margin ∧
    (v.worldToScreen ⟨mapSize.width, mapSize.height⟩).y = v.size.height - margin)

theorem fills_fit (hwidth : 1 ≤ size.width) (hheight : 1 ≤ size.height)
    (hmapWidth : 0 < mapSize.width) (hmapHeight : 0 < mapSize.height)
    (heq : (v.fit size mapSize).scale = v.fitScale size mapSize) :
    (v.fit size mapSize).Fills mapSize (v.settings.fitPadding / 2) := by
  unfold Fills worldToScreen
  rw [size_fit hwidth hheight, pan_fit hwidth hheight]
  exact (filled_of_eq_fitScale hwidth hheight hmapWidth hmapHeight heq).imp edges_of_filled
    edges_of_filled

/-- **A fitted map is shown as a whole.** The middle of the map comes to the middle of the screen.
If the lower bound does not raise the scale, and culling does not take it for a larger one, then the
whole map lies on the screen, half the margin or more away from every side, and every marker that
lies on the map is visible, however far beside the screen markers are looked for. If the upper bound
does not lower the scale either, the map reaches from margin to margin on one of the axes. -/
theorem fit_shows_whole_map (v : Viewport K) (size mapSize : Size K) (hwidth : 1 ≤ size.width)
    (hheight : 1 ≤ size.height) (hmapWidth : 0 < mapSize.width) (hmapHeight : 0 < mapSize.height)
    (hmargin : 0 ≤ v.settings.fitPadding) :
    (v.fit size mapSize).size = size ∧
      (v.fit size mapSize).worldToScreen mapSize.center = size.center ∧
      (v.settings.minScale ≤ v.fitScale size mapSize → 1 / 10 ^ 6 ≤ (v.fit size mapSize).scale →
        (∀ p, mapSize.area.Encloses p →
          (v.fit size mapSize).OnScreen (-(v.settings.fitPadding / 2))
            ((v.fit size mapSize).worldToScreen p)) ∧
        (v.fitScale size mapSize ≤ v.settings.maxScale →
          (v.fit size mapSize).Fills mapSize (v.settings.fitPadding / 2)) ∧
        ∀ padding markers, ∀ m ∈ markers, ∀ p, m.position = some p → mapSize.area.Encloses p →
          m ∈ (v.fit size mapSize).visible padding markers) := by
  have hsize : (v.fit size mapSize).size = size := size_fit hwidth hheight
  refine ⟨hsize, worldToScreen_fit_center hwidth hheight, ?_⟩
  intro hmin hscale
  have hpos : (0 : K) ≤ (v.fit size mapSize).scale := le_trans (by positivity) hscale
  have hclamped : (v.fit size mapSize).scale =
      min (v.fitScale size mapSize) v.settings.maxScale := by
    rw [scale_fit, clampScale_eq, max_eq_left hmin]
  have hdrawn : ∀ p, mapSize.area.Encloses p →
      (v.fit size mapSize).OnScreen (-(v.settings.fitPadding / 2))
        ((v.fit size mapSize).worldToScreen p) := by
    -- The upper bound may have made the map smaller, which leaves the more room.
    intro p hp
    exact onScreen_fit hwidth hheight hmapWidth hmapHeight hpos
      (hclamped.trans_le (min_le_left _ _)) hp
  refine ⟨hdrawn, ?_, ?_⟩
  · intro hmax
    exact fills_fit hwidth hheight hmapWidth hmapHeight (hclamped.trans (min_eq_left hmax))
  · intro padding markers m hm p hposition hp
    have hempty : (v.fit size mapSize).size.isEmpty = false := by
      refine isEmpty_size_eq_false ?_ ?_
      · rw [hsize]
        exact zero_lt_one.trans_le hwidth
      · rw [hsize]
        exact zero_lt_one.trans_le hheight
    -- Inside the margin is on the screen, and so inside every padding around it.
    have hwider : -(v.settings.fitPadding / 2) ≤ max padding 0 :=
      (neg_nonpos.mpr (div_nonneg hmargin zero_le_two)).trans (le_max_right _ _)
    have hreveals : (v.fit size mapSize).Reveals (max padding 0) m :=
      ⟨p, hposition, (hdrawn p hp).mono hwider⟩
    exact List.mem_filter.mpr ⟨hm, (shows_iff_reveals hempty hscale padding m).mpr hreveals⟩

/-- A wide map fills the width of the screen, and the marker in its far corner is visible. -/
theorem fit_wide_map :
    ∃ (v : Viewport ℝ) (size mapSize : Size ℝ) (corner : Marker ℝ),
      1 ≤ size.width ∧ 1 ≤ size.height ∧ 0 < mapSize.width ∧ 0 < mapSize.height ∧
      0 ≤ v.settings.fitPadding ∧ v.settings.minScale ≤ v.fitScale size mapSize ∧
      v.fitScale size mapSize ≤ v.settings.maxScale ∧
      corner.position = some ⟨mapSize.width, mapSize.height⟩ ∧
      (v.fit size mapSize).scale = 2 / 5 ∧
      (v.fit size mapSize).Fills mapSize 12 ∧ corner ∈ (v.fit size mapSize).visible 0 [corner] := by
  let v : Viewport ℝ := new ViewportSettings.standard
  let size : Size ℝ := ⟨824, 624⟩
  let mapSize : Size ℝ := ⟨2000, 1000⟩
  let corner : Marker ℝ :=
    ⟨"a", .cube, none, "Poeta", none, "Chest", none, some 2000, some 1000, none, false⟩
  have hwidth : 1 ≤ size.width := by norm_num [size]
  have hheight : 1 ≤ size.height := by norm_num [size]
  have hmapWidth : 0 < mapSize.width := by norm_num [mapSize]
  have hmapHeight : 0 < mapSize.height := by norm_num [mapSize]
  have hpadding : v.settings.fitPadding = 24 := Nat.cast_ofNat
  have hmargin : 0 ≤ v.settings.fitPadding := by
    rw [hpadding]
    norm_num
  -- 800 pixels are left for a width of 2000, and 600 for a height of 1000.
  have hasked : v.fitScale size mapSize = 2 / 5 := by
    rw [fitScale_eq hwidth hheight, hpadding]
    norm_num [size, mapSize]
  have hmin : v.settings.minScale ≤ v.fitScale size mapSize := by
    rw [hasked]
    norm_num [v, new, ViewportSettings.standard]
  have hmax : v.fitScale size mapSize ≤ v.settings.maxScale := by
    rw [hasked]
    norm_num [v, new, ViewportSettings.standard]
  have hscale : (v.fit size mapSize).scale = 2 / 5 := by
    rw [scale_fit, clampScale_eq_self ⟨hmin, hmax⟩, hasked]
  have hlarge : 1 / 10 ^ 6 ≤ (v.fit size mapSize).scale := by
    rw [hscale]
    norm_num
  obtain ⟨-, -, hwhole⟩ := fit_shows_whole_map v size mapSize hwidth hheight hmapWidth hmapHeight
    hmargin
  obtain ⟨-, hfills, hvisible⟩ := hwhole hmin hlarge
  have hhalf : v.settings.fitPadding / 2 = 12 := by
    rw [hpadding]
    norm_num
  have hcorner : mapSize.area.Encloses ⟨2000, 1000⟩ := by
    norm_num [Box.Encloses, Size.area, mapSize]
  exact ⟨v, size, mapSize, corner, hwidth, hheight, hmapWidth, hmapHeight, hmargin, hmin, hmax, rfl,
    hscale, hhalf ▸ hfills hmax,
    hvisible 0 [corner] corner List.mem_cons_self ⟨2000, 1000⟩ rfl hcorner⟩

end Viewport

end MarkerAtlas
