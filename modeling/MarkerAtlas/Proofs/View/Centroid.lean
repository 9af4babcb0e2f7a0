import Mathlib
import MarkerAtlas.Proofs.Scalar.Exact
import MarkerAtlas.Proofs.View.Cluster

/-!
# A cluster is drawn in its own cell

The dot of a cluster is drawn at the mean of its markers. A cell is an interval on each axis, the
near edge with it and the far edge not, and a mean of numbers of an interval lies in it again. In
exact arithmetic it makes no difference that the mean is taken in the world and the cell on the
screen: on each axis the view goes from the one to the other by a positive factor and an offset.
-/

namespace MarkerAtlas

variable {K : Type} [ExactField K]

/-! ## Columns and rows -/

/-- The column and the row of a screen point, however far away it is. -/
def cellAt (cellSize : K) (p : Point K) : ℤ × ℤ := (⌊p.x / cellSize⌋, ⌊p.y / cellSize⌋)

/-- The column and the row that a key stands for. -/
def CellKey.place (k : CellKey) : ℤ × ℤ := (k.column.toInt, k.row.toInt)

theorem CellKey.place_injective : Function.Injective place := by
  rintro ⟨column, row⟩ ⟨column', row'⟩ h
  obtain ⟨hcolumn, hrow⟩ := Prod.mk.inj h
  exact congrArg₂ CellKey.mk (Int64.toInt_inj.mp hcolumn) (Int64.toInt_inj.mp hrow)

/-- Column and row are numbers of 64 bits with sign. -/
def Keyed (cell : ℤ × ℤ) : Prop :=
  (-2 ^ 63 ≤ cell.1 ∧ cell.1 < 2 ^ 63) ∧ (-2 ^ 63 ≤ cell.2 ∧ cell.2 < 2 ^ 63)

theorem toInt_floorIndex {x : K} (hlow : -2 ^ 63 ≤ ⌊x⌋) (hhigh : ⌊x⌋ < 2 ^ 63) :
    (Int64.ofInt (Scalar.floorIndex x)).toInt = ⌊x⌋ := by
  -- The integer part is cut off at the ends of the 64 bits only.
  have hkept : Scalar.floorIndex x = ⌊x⌋ := by
    show max Int64.minValue.toInt (min Int64.maxValue.toInt ⌊x⌋) = ⌊x⌋
    rw [Int64.toInt_minValue, Int64.toInt_maxValue, min_eq_right (Int.le_sub_one_of_lt hhigh),
      max_eq_right hlow]
  rw [hkept, Int64.toInt_ofInt_of_le hlow hhigh]

/-- The key of a screen point stands for the column and the row in which the point lies. -/
theorem place_ofScreen {cellSize : K} {p : Point K} (h : Keyed (cellAt cellSize p)) :
    (CellKey.ofScreen cellSize p).place = cellAt cellSize p :=
  congrArg₂ Prod.mk (toInt_floorIndex h.1.1 h.1.2) (toInt_floorIndex h.2.1 h.2.2)

/-- What is in one column is less than its width apart. -/
theorem abs_sub_lt_of_floor_eq {cellSize x y : K} (hsize : 0 < cellSize)
    (h : ⌊x / cellSize⌋ = ⌊y / cellSize⌋) : |x - y| < cellSize := by
  have hapart := Int.abs_sub_lt_one_of_floor_eq_floor h
  rwa [← sub_div, abs_div, abs_of_pos hsize, div_lt_one hsize] at hapart

/-! ## The mean -/

/-- Sums are taken coordinate by coordinate. -/
theorem Point.total_hom (f : Point K → K) (hzero : f Point.origin = 0)
    (hadd : ∀ p q, f (p + q) = f p + f q) (ps : List (Point K)) :
    f (Point.total ps) = (ps.map f).sum := by
  induction ps using List.reverseRecOn with
  | nil => exact hzero
  | append_singleton ps p ih =>
    rw [List.map_append, List.sum_append, List.map_singleton, List.sum_singleton]
    by_cases hps : ps = []
    · subst hps
      exact (zero_add (f p)).symm
    · rw [total_concat p hps, hadd, ih]

theorem mean_mem_Ico {xs : List K} (hne : xs ≠ []) {a b : K} (h : ∀ x ∈ xs, x ∈ Set.Ico a b) :
    xs.sum * (1 / xs.length) ∈ Set.Ico a b := by
  have hlength : (0 : K) < xs.length := Nat.cast_pos.mpr (List.length_pos_iff.mpr hne)
  have hlow : xs.length • a ≤ xs.sum := xs.card_nsmul_le_sum a fun x hx => (h x hx).1
  have hhigh : xs.sum < xs.length • b := by
    have hlt := List.sum_lt_sum_of_ne_nil hne id (fun _ => b) fun x hx => (h x hx).2
    rwa [List.map_id, List.map_const', List.sum_replicate] at hlt
  rw [nsmul_eq_mul] at hlow hhigh
  rw [mul_one_div]
  exact ⟨(le_div_iff₀' hlength).mpr hlow, (div_lt_iff₀' hlength).mpr hhigh⟩

section
variable {scale cellSize : K} (hscale : 0 < scale) (hsize : 0 < cellSize)
include hscale hsize

/-- On one axis, a column of the screen is an interval of the world. -/
theorem floor_screen_eq_iff (pan x : K) (i : ℤ) : ⌊(pan + x * scale) / cellSize⌋ = i ↔
    x ∈ Set.Ico ((i * cellSize - pan) / scale) (((i + 1) * cellSize - pan) / scale) := by
  rw [Int.floor_eq_iff, le_div_iff₀ hsize, div_lt_iff₀ hsize, Set.mem_Ico, div_le_iff₀ hscale,
    lt_div_iff₀ hscale, sub_le_iff_le_add', lt_sub_iff_add_lt']

theorem floor_screen_mean {pan : K} {i : ℤ} {xs : List K} (hne : xs ≠ [])
    (h : ∀ x ∈ xs, ⌊(pan + x * scale) / cellSize⌋ = i) :
    ⌊(pan + xs.sum * (1 / xs.length) * scale) / cellSize⌋ = i := by
  rw [floor_screen_eq_iff hscale hsize]
  exact mean_mem_Ico hne fun x hx => (floor_screen_eq_iff hscale hsize pan x i).mp (h x hx)

end

namespace Viewport

variable {v : Viewport K} {cellSize : K} {ms : List (Marker K)}

/-- The mean of points that are drawn in one cell is drawn in it too. -/
theorem cellAt_mean (hscale : 0 < v.scale) (hsize : 0 < cellSize) {cell : ℤ × ℤ}
    {ps : List (Point K)} (hne : ps ≠ [])
    (h : ∀ p ∈ ps, cellAt cellSize (v.worldToScreen p) = cell) :
    cellAt cellSize (v.worldToScreen ((Point.total ps).scale (1 / ps.length))) = cell := by
  -- Both axes alike: `f` is one of the coordinates.
  have haxis (f : Point K → K) (hzero : f Point.origin = 0)
      (hadd : ∀ p q, f (p + q) = f p + f q) (pan : K) (i : ℤ)
      (hf : ∀ p ∈ ps, ⌊(pan + f p * v.scale) / cellSize⌋ = i) :
      ⌊(pan + f (Point.total ps) * (1 / ps.length) * v.scale) / cellSize⌋ = i := by
    rw [Point.total_hom f hzero hadd, ← List.length_map f]
    exact floor_screen_mean hscale hsize (mt List.map_eq_nil_iff.mp hne)
      (List.forall_mem_map.mpr hf)
  exact Prod.ext
    (haxis (·.x) rfl (fun _ _ => rfl) v.pan.x cell.1 fun p hp => congrArg Prod.fst (h p hp))
    (haxis (·.y) rfl (fun _ _ => rfl) v.pan.y cell.2 fun p hp => congrArg Prod.snd (h p hp))

/-- The members of a cluster. They are drawn in its cell. -/
theorem cellAt_of_mem_inCell {k : CellKey} {m : Marker K} (hm : m ∈ v.inCell cellSize ms k)
    {p : Point K} (hp : m.position = some p)
    (hkeyed : Keyed (cellAt cellSize (v.worldToScreen p))) :
    cellAt cellSize (v.worldToScreen p) = k.place := by
  have hcell : v.cell? cellSize m = some k := of_decide_eq_true (List.mem_filter.mp hm).2
  rw [cell?, hp, Option.map_some] at hcell
  rw [← place_ofScreen hkeyed, Option.some.inj hcell]

/-- Where the markers lie that are drawn in a cell. -/
def positions (v : Viewport K) (cellSize : K) (ms : List (Marker K)) (k : CellKey) :
    List (Point K) := (v.inCell cellSize ms k).filterMap (·.position)

theorem length_positions (k : CellKey) :
    (v.positions cellSize ms k).length = (v.inCell cellSize ms k).length :=
  List.filterMap_length_eq_length.mpr fun _ hm =>
    Option.isSome_iff_exists.mpr (position_of_mem_inCell hm)

section
variable {c : Cluster K} (hc : c ∈ (clusterMarkers v cellSize ms).clusters)
include hc

theorem centroid_eq_mean : c.centroid = (Point.total (v.positions cellSize ms c.key)).scale
    (1 / (v.positions cellSize ms c.key).length) := by
  rw [length_positions]
  exact (v.summarizes_of_mem_clusters cellSize ms hc).centroid

theorem positions_ne_nil : v.positions cellSize ms c.key ≠ [] := by
  have hkey : c.key ∈ (clusterMarkers v cellSize ms).clusters.map (·.key) := List.mem_map_of_mem hc
  rw [map_key_clusters] at hkey
  have hcrowded := of_decide_eq_true (List.mem_filter.mp hkey).2
  rw [← List.length_pos_iff, length_positions]
  omega

end

theorem nodup_key_clusters :
    ((clusterMarkers v cellSize ms).clusters.map (·.key)).Nodup := by
  rw [map_key_clusters]
  exact nodup_cells.filter _

/-- **A cluster is drawn in its own cell.** If all markers lie in columns and rows whose numbers
fit a key, then the dot of a cluster is drawn in the column and the row of the cluster's key. So the
dots of two clusters are drawn in different cells, and no member of a cluster is drawn as far as the
side of a cell away from its dot on either axis. -/
theorem clusters_in_own_cells (v : Viewport K) {cellSize : K} {ms : List (Marker K)}
    (hscale : 0 < v.scale) (hsize : 0 < cellSize)
    (hkeyed : ∀ m ∈ ms, ∀ p, m.position = some p → Keyed (cellAt cellSize (v.worldToScreen p))) :
    (∀ c ∈ (clusterMarkers v cellSize ms).clusters,
      cellAt cellSize (v.worldToScreen c.centroid) = c.key.place) ∧
    ((clusterMarkers v cellSize ms).clusters.Pairwise fun c d =>
      cellAt cellSize (v.worldToScreen c.centroid) ≠ cellAt cellSize (v.worldToScreen d.centroid)) ∧
    ∀ c ∈ (clusterMarkers v cellSize ms).clusters, ∀ m ∈ v.inCell cellSize ms c.key, ∀ p,
      m.position = some p →
        |(v.worldToScreen p).x - (v.worldToScreen c.centroid).x| < cellSize ∧
          |(v.worldToScreen p).y - (v.worldToScreen c.centroid).y| < cellSize := by
  have hmember : ∀ k, ∀ m ∈ v.inCell cellSize ms k, ∀ p, m.position = some p →
      cellAt cellSize (v.worldToScreen p) = k.place := by
    intro k m hm p hp
    exact cellAt_of_mem_inCell hm hp (hkeyed m (List.mem_filter.mp hm).1 p hp)
  have hown : ∀ c ∈ (clusterMarkers v cellSize ms).clusters,
      cellAt cellSize (v.worldToScreen c.centroid) = c.key.place := by
    intro c hc
    rw [centroid_eq_mean hc]
    refine cellAt_mean hscale hsize (positions_ne_nil hc) fun p hp => ?_
    obtain ⟨m, hm, hposition⟩ := List.mem_filterMap.mp hp
    exact hmember c.key m hm p hposition
  refine ⟨hown, ?_, ?_⟩
  · -- Two dots in one cell would have one key.
    refine (List.pairwise_map.mp nodup_key_clusters).imp_of_mem ?_
    intro c d hc hd hne heq
    rw [hown c hc, hown d hd] at heq
    exact hne (CellKey.place_injective heq)
  · intro c hc m hm p hp
    have hsame := (hmember c.key m hm p hp).trans (hown c hc).symm
    exact ⟨abs_sub_lt_of_floor_eq hsize (congrArg Prod.fst hsame),
      abs_sub_lt_of_floor_eq hsize (congrArg Prod.snd hsame)⟩

/-- Two markers above and to the left of the screen are drawn as a dot between them. -/
theorem cluster_left_above :
    ∃ (v : Viewport ℝ) (m n : Marker ℝ) (c : Cluster ℝ), 0 < v.scale ∧
      m.position = some ⟨0, 0⟩ ∧ n.position = some ⟨10, 4⟩ ∧
      cellAt 34 (v.worldToScreen ⟨0, 0⟩) = (-1, -2) ∧
      cellAt 34 (v.worldToScreen ⟨10, 4⟩) = (-1, -2) ∧
      (clusterMarkers v 34 [m, n]).clusters = [c] ∧ c.centroid = ⟨5, 2⟩ ∧
      c.key.place = (-1, -2) ∧ cellAt 34 (v.worldToScreen c.centroid) = c.key.place ∧
      |(v.worldToScreen ⟨0, 0⟩).x - (v.worldToScreen c.centroid).x| < 34 := by
  let v : Viewport ℝ := ⟨3, ⟨-34, -68⟩, ⟨800, 600⟩, ViewportSettings.standard⟩
  let marker (id : String) (x y : ℝ) : Marker ℝ :=
    ⟨id, .cube, none, "Poeta", none, "Chest", none, some x, some y, none, false⟩
  let m := marker "a" 0 0
  let n := marker "b" 10 4
  have hm : cellAt 34 (v.worldToScreen ⟨0, 0⟩) = (-1, -2) :=
    Prod.ext (Int.floor_eq_iff.mpr (by norm_num [v, worldToScreen]))
      (Int.floor_eq_iff.mpr (by norm_num [v, worldToScreen]))
  have hn : cellAt 34 (v.worldToScreen ⟨10, 4⟩) = (-1, -2) :=
    Prod.ext (Int.floor_eq_iff.mpr (by norm_num [v, worldToScreen]))
      (Int.floor_eq_iff.mpr (by norm_num [v, worldToScreen]))
  have hkeyed : Keyed (-1, -2) := by norm_num [Keyed]
  -- Both markers are drawn in one cell, so that there is one cluster.
  let key := CellKey.ofScreen 34 (v.worldToScreen ⟨0, 0⟩)
  have hkey : key.place = (-1, -2) := (place_ofScreen (hm ▸ hkeyed)).trans hm
  have hsame : CellKey.ofScreen 34 (v.worldToScreen ⟨10, 4⟩) = key := by
    refine CellKey.place_injective ?_
    rw [place_ofScreen (hn ▸ hkeyed), hn, hkey]
  let c : Cluster ℝ := ⟨key, ((⟨0, 0⟩ : Point ℝ) + ⟨10, 4⟩).scale (1 / Scalar.ofNat 2), 2, 0⟩
  have hclusters : (clusterMarkers v 34 [m, n]).clusters = [c] :=
    congrArg Clustering.clusters (v.clusterMarkers_neighbours 34 rfl rfl rfl hsame)
  have hcentroid : c.centroid = ⟨5, 2⟩ :=
    congrArg₂ Point.mk (by norm_num) (by norm_num)
  have hc : c ∈ (clusterMarkers v 34 [m, n]).clusters := by
    rw [hclusters]
    exact List.mem_singleton_self c
  have hall : ∀ m' ∈ [m, n], ∀ p, m'.position = some p →
      Keyed (cellAt 34 (v.worldToScreen p)) := by
    intro m' hm' p hp
    rcases List.mem_pair.mp hm' with rfl | rfl
    · obtain rfl := Option.some.inj hp
      exact hm ▸ hkeyed
    · obtain rfl := Option.some.inj hp
      exact hn ▸ hkeyed
  obtain ⟨hown, -, hclose⟩ := clusters_in_own_cells v (by norm_num [v]) (by norm_num) hall
  have hmember : m ∈ v.inCell 34 [m, n] c.key :=
    List.mem_filter.mpr ⟨List.mem_cons_self, decide_eq_true rfl⟩
  exact ⟨v, m, n, c, by norm_num [v], rfl, rfl, hm, hn, hclusters, hcentroid, hkey, hown c hc,
    (hclose c hc m hmember ⟨0, 0⟩ rfl).1⟩

end Viewport

end MarkerAtlas
