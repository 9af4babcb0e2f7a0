import MarkerAtlas.Proofs.List.Distinct
import MarkerAtlas.View.Cluster

/-!
# What clusters stand for

A marker is in one cell. The groups that are built marker by marker are the cells with markers in
them, in the order of their first markers, and each group counts and sums up its markers. So the
markers alone in their cells and the members of the clusters are all the markers there are.
-/

namespace MarkerAtlas

variable {α : Type} [Scalar α]

/-! ## Cells -/

/-- The sum of some points, from the first on; the origin if there are none. -/
def Point.total : List (Point α) → Point α
  | [] => Point.origin
  | p :: ps => ps.foldl (· + ·) p

theorem Point.total_concat {ps : List (Point α)} (p : Point α) (h : ps ≠ []) :
    total (ps ++ [p]) = total ps + p := by
  cases ps with
  | nil => exact absurd rfl h
  | cons q qs => exact List.foldl_concat _ _ _ _

namespace Viewport

/-- The cell in which a marker is drawn, if it lies somewhere. -/
def cell? (v : Viewport α) (cellSize : α) (m : Marker α) : Option CellKey :=
  m.position.map fun world => CellKey.ofScreen cellSize (v.worldToScreen world)

/-- The markers that are drawn in a cell. -/
def inCell (v : Viewport α) (cellSize : α) (ms : List (Marker α)) (k : CellKey) :
    List (Marker α) := ms.filter fun m => v.cell? cellSize m = some k

/-- The cells in which markers are drawn, in the order of their first markers. -/
def cells (v : Viewport α) (cellSize : α) (ms : List (Marker α)) : List CellKey :=
  (ms.filterMap (v.cell? cellSize)).eraseDups

/-- Is the marker drawn, and the only one in its cell? -/
def isAlone (v : Viewport α) (cellSize : α) (ms : List (Marker α)) (m : Marker α) : Bool :=
  (v.cell? cellSize m).any fun k => (v.inCell cellSize ms k).length = 1

variable {v : Viewport α} {cellSize : α} {ms : List (Marker α)}

theorem cell?_isSome (m : Marker α) : (v.cell? cellSize m).isSome = m.isPlaced :=
  Option.isSome_map

theorem mem_cells {k : CellKey} :
    k ∈ v.cells cellSize ms ↔ ∃ m ∈ ms, v.cell? cellSize m = some k := by
  rw [cells, List.mem_eraseDups, List.mem_filterMap]

theorem nodup_cells : (v.cells cellSize ms).Nodup := nodup_eraseDups _

theorem inCell_concat (m : Marker α) (k : CellKey) :
    v.inCell cellSize (ms ++ [m]) k =
      v.inCell cellSize ms k ++ if v.cell? cellSize m = some k then [m] else [] := by
  rw [inCell, List.filter_append, List.filter_singleton, Bool.cond_decide]
  rfl

theorem inCell_concat_self {m : Marker α} {key : CellKey} (h : v.cell? cellSize m = some key) :
    v.inCell cellSize (ms ++ [m]) key = v.inCell cellSize ms key ++ [m] := by
  rw [inCell_concat, if_pos h]

/-- What is in the other cells stays as it is. -/
theorem inCell_concat_of_ne {m : Marker α} {key k : CellKey} (h : v.cell? cellSize m = some key)
    (hk : k ≠ key) : v.inCell cellSize (ms ++ [m]) k = v.inCell cellSize ms k := by
  have hother : v.cell? cellSize m ≠ some k := fun heq => hk (Option.some.inj (heq.symm.trans h))
  rw [inCell_concat, if_neg hother, List.append_nil]

theorem inCell_eq_nil {k : CellKey} (h : k ∉ v.cells cellSize ms) : v.inCell cellSize ms k = [] :=
  List.filter_eq_nil_iff.mpr fun m hm heq => h (mem_cells.mpr ⟨m, hm, of_decide_eq_true heq⟩)

theorem cells_concat {m : Marker α} {key : CellKey} (h : v.cell? cellSize m = some key) :
    v.cells cellSize (ms ++ [m]) = (ms.filterMap (v.cell? cellSize) ++ [key]).eraseDups := by
  rw [cells, List.filterMap_append, List.filterMap_cons, h, List.filterMap_nil]

/-- A marker in a cell that has markers already. -/
theorem cells_concat_of_mem {m : Marker α} {key : CellKey} (h : v.cell? cellSize m = some key)
    (hmem : key ∈ v.cells cellSize ms) : v.cells cellSize (ms ++ [m]) = v.cells cellSize ms := by
  rw [cells_concat h, eraseDups_concat_of_mem (List.mem_eraseDups.mp hmem), cells]

/-- The first marker in a cell. -/
theorem cells_concat_of_notMem {m : Marker α} {key : CellKey} (h : v.cell? cellSize m = some key)
    (hnew : key ∉ v.cells cellSize ms) :
    v.cells cellSize (ms ++ [m]) = v.cells cellSize ms ++ [key] := by
  rw [cells_concat h, eraseDups_concat_of_notMem (fun hmem => hnew (List.mem_eraseDups.mpr hmem)),
    cells]

theorem count_cell (k : CellKey) :
    (ms.filterMap (v.cell? cellSize)).count k = (v.inCell cellSize ms k).length := by
  rw [List.count_filterMap, inCell, ← List.countP_eq_length_filter]
  exact List.countP_congr fun m _ => by rw [beq_iff_eq, decide_eq_true_iff]

/-- Who is in a cell lies somewhere. -/
theorem position_of_mem_inCell {k : CellKey} {m : Marker α} (h : m ∈ v.inCell cellSize ms k) :
    ∃ p, m.position = some p := by
  obtain ⟨p, hp, -⟩ := Option.map_eq_some_iff.mp (of_decide_eq_true (List.mem_filter.mp h).2)
  exact ⟨p, hp⟩

end Viewport

/-! ## Groups -/

namespace CellGroup

/-- The group stands for these markers: it knows the first one, and counts and adds up all. -/
structure Holds (g : CellGroup α) (members : List (Marker α)) : Prop where
  first : members.head? = some g.first
  count : g.count = members.length
  doneCount : g.doneCount = members.countP (·.done)
  sum : g.sum = Point.total (members.filterMap (·.position))

variable {key : CellKey} {m : Marker α} {world : Point α} {members : List (Marker α)}

theorem holds_start (hm : m.position = some world) : (start key m world).Holds [m] where
  first := rfl
  count := rfl
  doneCount := by
    cases hdone : m.done <;> simp [start, hdone]
  sum := by
    simp [start, Point.total, hm]

/-- The members of a group have positions to add up. -/
theorem Holds.add {g : CellGroup α} (h : g.Holds members) (hm : m.position = some world)
    (hplaced : members.filterMap (·.position) ≠ []) : (g.add m world).Holds (members ++ [m]) where
  first := by
    rw [List.head?_append, h.first]
    rfl
  count := by
    rw [List.length_append, ← h.count]
    rfl
  doneCount := by
    rw [List.countP_append, ← h.doneCount]
    cases hdone : m.done <;> simp [CellGroup.add, hdone]
  sum := by
    rw [List.filterMap_append, List.filterMap_cons, hm, List.filterMap_nil,
      Point.total_concat world hplaced, ← h.sum]
    rfl

/-! ### Putting a marker into its group -/

variable {groups : List (CellGroup α)}

/-- A cell without a group gets one at the end. -/
theorem insert_of_notMem (h : key ∉ groups.map (·.key)) :
    insert key m world groups = groups ++ [start key m world] := by
  induction groups with
  | nil => rfl
  | cons g gs ih =>
    rw [List.map_cons, List.mem_cons, not_or] at h
    rw [insert, if_neg (Ne.symm h.1), ih h.2, List.cons_append]

theorem map_key_insert_of_mem (h : key ∈ groups.map (·.key)) :
    (insert key m world groups).map (·.key) = groups.map (·.key) := by
  induction groups with
  | nil => cases h
  | cons g gs ih =>
    rw [insert]
    by_cases hg : g.key = key
    · rw [if_pos hg]
      rfl
    · rw [List.map_cons, List.mem_cons] at h
      rw [if_neg hg, List.map_cons, List.map_cons, ih (h.resolve_left (Ne.symm hg))]

/-- Only the group of the marker's cell changes. -/
theorem mem_insert_of_mem (hnd : (groups.map (·.key)).Nodup) (h : key ∈ groups.map (·.key))
    {g : CellGroup α} (hg : g ∈ insert key m world groups) :
    (g ∈ groups ∧ g.key ≠ key) ∨ ∃ g₀ ∈ groups, g₀.key = key ∧ g = g₀.add m world := by
  -- By induction on the groups in front of the one of the cell.
  induction groups with
  | nil => cases h
  | cons g₀ gs ih =>
    rw [List.map_cons, List.nodup_cons] at hnd
    rw [insert] at hg
    by_cases hkey : g₀.key = key
    · rw [if_pos hkey] at hg
      rcases List.mem_cons.mp hg with rfl | hg
      · exact .inr ⟨g₀, List.mem_cons_self, hkey, rfl⟩
      · -- Keys occur once, so that the groups behind have other keys.
        refine .inl ⟨List.mem_cons_of_mem _ hg, fun heq => hnd.1 ?_⟩
        rw [hkey, ← heq]
        exact List.mem_map_of_mem hg
    · rw [if_neg hkey] at hg
      rcases List.mem_cons.mp hg with rfl | hg
      · exact .inl ⟨List.mem_cons_self, hkey⟩
      · have hmem : key ∈ gs.map (·.key) := by
          rw [List.map_cons, List.mem_cons] at h
          exact h.resolve_left (Ne.symm hkey)
        rcases ih hnd.2 hmem hg with ⟨hg, hne⟩ | ⟨g₁, hg₁, hg₁key, rfl⟩
        · exact .inl ⟨List.mem_cons_of_mem _ hg, hne⟩
        · exact .inr ⟨g₁, List.mem_cons_of_mem _ hg₁, hg₁key, rfl⟩

end CellGroup

/-- The groups are the cells with markers in them, each with its markers. -/
structure Viewport.Grouped (v : Viewport α) (cellSize : α) (ms : List (Marker α))
    (groups : List (CellGroup α)) : Prop where
  keys : groups.map (·.key) = v.cells cellSize ms
  holds : ∀ g ∈ groups, g.Holds (v.inCell cellSize ms g.key)

namespace Viewport

variable {v : Viewport α} {cellSize : α} {ms : List (Marker α)} {groups : List (CellGroup α)}
  {m : Marker α}

/-- A marker without a position is in no cell. -/
theorem Grouped.concat_unplaced (h : v.Grouped cellSize ms groups) (hm : m.position = none) :
    v.Grouped cellSize (ms ++ [m]) groups := by
  have hcell : v.cell? cellSize m = none := by rw [cell?, hm, Option.map_none]
  refine ⟨?_, fun g hg => ?_⟩
  · rw [h.keys, cells, cells, List.filterMap_append]
    simp [hcell]
  · rw [inCell_concat, hcell, if_neg (by simp), List.append_nil]
    exact h.holds g hg

section
variable {world : Point α} {key : CellKey}

/-- One more marker is put into the group that its cell has. -/
theorem Grouped.concat_known (h : v.Grouped cellSize ms groups) (hm : m.position = some world)
    (hcell : v.cell? cellSize m = some key) (hmem : key ∈ v.cells cellSize ms) :
    v.Grouped cellSize (ms ++ [m]) (CellGroup.insert key m world groups) := by
  have hgroup : key ∈ groups.map (·.key) := h.keys ▸ hmem
  have hnd : (groups.map (·.key)).Nodup := h.keys ▸ nodup_cells
  refine ⟨?_, fun g hg => ?_⟩
  · rw [CellGroup.map_key_insert_of_mem hgroup, cells_concat_of_mem hcell hmem, h.keys]
  · rcases CellGroup.mem_insert_of_mem hnd hgroup hg with ⟨hg, hne⟩ | ⟨g₀, hg₀, rfl, rfl⟩
    · rw [inCell_concat_of_ne hcell hne]
      exact h.holds g hg
    · -- This is the group of the cell, which some marker has begun before.
      show (g₀.add m world).Holds (v.inCell cellSize (ms ++ [m]) g₀.key)
      rw [inCell_concat_self hcell]
      have hfirst := List.mem_of_head? (h.holds g₀ hg₀).first
      obtain ⟨p, hp⟩ := position_of_mem_inCell hfirst
      exact (h.holds g₀ hg₀).add hm (List.ne_nil_of_mem (List.mem_filterMap.mpr ⟨_, hfirst, hp⟩))

/-- The first marker of a cell begins a group. -/
theorem Grouped.concat_new (h : v.Grouped cellSize ms groups) (hm : m.position = some world)
    (hcell : v.cell? cellSize m = some key) (hnew : key ∉ v.cells cellSize ms) :
    v.Grouped cellSize (ms ++ [m]) (CellGroup.insert key m world groups) := by
  have hgroup : key ∉ groups.map (·.key) := h.keys ▸ hnew
  rw [CellGroup.insert_of_notMem hgroup]
  refine ⟨?_, fun g hg => ?_⟩
  · rw [List.map_append, h.keys, cells_concat_of_notMem hcell hnew]
    rfl
  · rcases List.mem_append.mp hg with hg | hg
    · have hne : g.key ≠ key := fun heq => hgroup (heq ▸ List.mem_map_of_mem hg)
      rw [inCell_concat_of_ne hcell hne]
      exact h.holds g hg
    · -- The marker is the only one of its cell so far.
      obtain rfl := List.mem_singleton.mp hg
      show (CellGroup.start key m world).Holds (v.inCell cellSize (ms ++ [m]) key)
      rw [inCell_concat_self hcell, inCell_eq_nil hnew]
      exact CellGroup.holds_start hm

end

/-- One more marker is put into the group of its cell. -/
theorem Grouped.concat_placed (h : v.Grouped cellSize ms groups) {world : Point α}
    (hm : m.position = some world) :
    v.Grouped cellSize (ms ++ [m])
      (CellGroup.insert (CellKey.ofScreen cellSize (v.worldToScreen world)) m world groups) := by
  have hcell : v.cell? cellSize m = some (CellKey.ofScreen cellSize (v.worldToScreen world)) := by
    rw [cell?, hm, Option.map_some]
  by_cases hmem : CellKey.ofScreen cellSize (v.worldToScreen world) ∈ v.cells cellSize ms
  · exact h.concat_known hm hcell hmem
  · exact h.concat_new hm hcell hmem

/-- The groups that are built marker by marker. -/
theorem grouped_cellGroups (v : Viewport α) (cellSize : α) (ms : List (Marker α)) :
    v.Grouped cellSize ms (cellGroups v cellSize ms) := by
  induction ms using List.reverseRecOn with
  | nil => exact ⟨rfl, fun g hg => by cases hg⟩
  | append_singleton ms m ih =>
    rw [cellGroups, List.foldl_concat]
    cases hm : m.position with
    | none => exact ih.concat_unplaced hm
    | some world => exact ih.concat_placed hm

end Viewport

/-! ## What is drawn of the groups -/

/-- The cluster counts and sums up these markers, and its colour says which of them are done. -/
structure Cluster.Summarizes (c : Cluster α) (members : List (Marker α)) : Prop where
  count : c.count = members.length
  doneCount : c.doneCount = members.countP (·.done)
  centroid : c.centroid =
    (Point.total (members.filterMap (·.position))).scale (1 / Scalar.ofNat members.length)
  allDone : c.tone = .done ↔ ∀ m ∈ members, m.done = true
  noneDone : c.tone = .pending ↔ ∀ m ∈ members, m.done = false
  someDone : c.tone = .mixed ↔ (∃ m ∈ members, m.done = true) ∧ ∃ m ∈ members, m.done = false

omit [Scalar α] in
theorem Cluster.tone_eq_done_iff (c : Cluster α) : c.tone = .done ↔ c.doneCount = c.count := by
  unfold tone
  split_ifs <;> simp_all

omit [Scalar α] in
theorem Cluster.tone_eq_pending_iff {c : Cluster α} (h : c.count ≠ 0) :
    c.tone = .pending ↔ c.doneCount = 0 := by
  unfold tone
  split_ifs <;> simp_all

omit [Scalar α] in
theorem Cluster.tone_eq_mixed_iff (c : Cluster α) :
    c.tone = .mixed ↔ c.doneCount ≠ 0 ∧ c.doneCount ≠ c.count := by
  unfold tone
  split_ifs <;> simp_all

theorem CellGroup.Holds.summarizes {g : CellGroup α} {members : List (Marker α)}
    (h : g.Holds members) : g.cluster.Summarizes members := by
  -- A group is begun by a marker, so that it counts at least one.
  have hpos : 0 < members.length := List.length_pos_of_mem (List.mem_of_head? h.first)
  have hcount : g.cluster.count = members.length := h.count
  have hdone : g.cluster.doneCount = members.countP (·.done) := h.doneCount
  have hall : g.cluster.doneCount = g.cluster.count ↔ ∀ m ∈ members, m.done = true := by
    rw [hdone, hcount, List.countP_eq_length]
  have hnone : g.cluster.doneCount = 0 ↔ ∀ m ∈ members, m.done = false := by
    simp only [hdone, List.countP_eq_zero, Bool.not_eq_true]
  refine ⟨h.count, h.doneCount, ?_, ?_, ?_, ?_⟩
  · rw [← h.sum, ← h.count]
    rfl
  · rw [Cluster.tone_eq_done_iff, hall]
  · rw [Cluster.tone_eq_pending_iff (hcount ▸ Nat.ne_of_gt hpos), hnone]
  · rw [Cluster.tone_eq_mixed_iff, Ne, hnone, Ne, hall]
    simp only [not_forall, Bool.not_eq_false, Bool.not_eq_true, exists_prop]

namespace Viewport

variable (v : Viewport α) (cellSize : α) (ms : List (Marker α))

/-- The clusters are the cells with two markers or more, in the order of their first markers. -/
theorem map_key_clusters : (clusterMarkers v cellSize ms).clusters.map (·.key) =
    (v.cells cellSize ms).filter fun k => 2 ≤ (v.inCell cellSize ms k).length := by
  have h := v.grouped_cellGroups cellSize ms
  simp only [clusterMarkers, List.map_map]
  show ((cellGroups v cellSize ms).filter _).map (·.key) = _
  rw [← h.keys, List.filter_map]
  refine congrArg (List.map _) (List.filter_congr fun g hg => ?_)
  have hcount := (h.holds g hg).count
  have hpos : 0 < (v.inCell cellSize ms g.key).length :=
    List.length_pos_of_mem (List.mem_of_head? (h.holds g hg).first)
  simp only [Function.comp_apply, decide_eq_decide]
  omega

theorem summarizes_of_mem_clusters {c : Cluster α}
    (hc : c ∈ (clusterMarkers v cellSize ms).clusters) :
    c.Summarizes (v.inCell cellSize ms c.key) := by
  obtain ⟨g, hg, rfl⟩ := List.mem_map.mp hc
  exact ((v.grouped_cellGroups cellSize ms).holds g (List.mem_filter.mp hg).1).summarizes

/-- The marker that is alone in a cell. -/
def sole? (k : CellKey) : Option (Marker α) :=
  if (v.inCell cellSize ms k).length = 1 then (v.inCell cellSize ms k).head? else none

theorem toList_sole? (k : CellKey) : (v.sole? cellSize ms k).toList =
    if (v.inCell cellSize ms k).length = 1 then v.inCell cellSize ms k else [] := by
  unfold sole?
  split
  · next hlength =>
    obtain ⟨m, hm⟩ := List.length_eq_one_iff.mp hlength
    rw [hm]
    rfl
  · rfl

/-- A marker that is the only one in its cell is drawn by itself, in the order of the cells. -/
theorem singles_eq_filterMap : (clusterMarkers v cellSize ms).singles =
    (v.cells cellSize ms).filterMap (v.sole? cellSize ms) := by
  have h := v.grouped_cellGroups cellSize ms
  have hfirst : ∀ g ∈ cellGroups v cellSize ms,
      (if decide (g.count = 1) = true then some g.first else none) =
        v.sole? cellSize ms g.key := by
    intro g hg
    simp only [sole?, (h.holds g hg).count, (h.holds g hg).first, decide_eq_true_eq]
  simp only [clusterMarkers]
  rw [← h.keys, List.filterMap_map, ← List.filterMap_eq_map, List.filterMap_filter]
  exact List.filterMap_congr hfirst

theorem singles_eq_filter : (clusterMarkers v cellSize ms).singles =
    ms.filter (v.isAlone cellSize ms) := by
  have hmany : ∀ k, 1 < (ms.filterMap (v.cell? cellSize)).count k →
      v.sole? cellSize ms k = none := by
    intro k hk
    rw [count_cell] at hk
    exact if_neg (Nat.ne_of_gt hk)
  rw [singles_eq_filterMap, cells, filterMap_eraseDups hmany, List.filterMap_filterMap,
    ← List.filterMap_eq_filter]
  -- It remains to see that a marker is the sole one of its cell just if it is alone.
  refine List.filterMap_congr fun m hm => ?_
  unfold isAlone
  cases hcell : v.cell? cellSize m with
  | none => simp [Option.guard, hcell]
  | some k =>
    -- The marker is one of its cell, and so the only one if there is only one.
    have hmem : m ∈ v.inCell cellSize ms k := List.mem_filter.mpr ⟨hm, decide_eq_true hcell⟩
    by_cases hlength : (v.inCell cellSize ms k).length = 1
    · obtain ⟨n, hn⟩ := List.length_eq_one_iff.mp hlength
      obtain rfl : m = n := by simpa [hn] using hmem
      simp [Option.guard, sole?, hcell, hn]
    · simp [Option.guard, sole?, hcell, hlength]

/-- The cells share out the markers with a position. -/
theorem flatMap_inCell_perm :
    ((v.cells cellSize ms).flatMap (v.inCell cellSize ms)).Perm (ms.filter (·.isPlaced)) := by
  have hplaced : (ms.filter fun m => ∃ k ∈ v.cells cellSize ms, v.cell? cellSize m = some k) =
      ms.filter (·.isPlaced) := by
    refine List.filter_congr fun m hm => ?_
    have hisSome : (v.cell? cellSize m).isSome = m.isPlaced := cell?_isSome m
    rw [← hisSome, Bool.eq_iff_iff, decide_eq_true_iff, Option.isSome_iff_exists]
    exact ⟨fun ⟨k, _, hk⟩ => ⟨k, hk⟩, fun ⟨k, hk⟩ => ⟨k, mem_cells.mpr ⟨m, hm, hk⟩, hk⟩⟩
  rw [← hplaced]
  exact flatMap_filter_perm _ ms nodup_cells

/-- The markers that are drawn by themselves are those of the cells that are not crowded. -/
theorem singles_eq_flatMap :
    (clusterMarkers v cellSize ms).singles = ((v.cells cellSize ms).filter fun k =>
      !decide (2 ≤ (v.inCell cellSize ms k).length)).flatMap (v.inCell cellSize ms) := by
  rw [singles_eq_filterMap]
  refine filterMap_eq_flatMap_filter fun k hk => ?_
  -- A cell that is not crowded has one marker, since every cell here has some.
  obtain ⟨m, hm, hcell⟩ := mem_cells.mp hk
  have hpos : 0 < (v.inCell cellSize ms k).length :=
    List.length_pos_of_mem (List.mem_filter.mpr ⟨hm, decide_eq_true hcell⟩)
  rw [toList_sole?]
  refine if_congr ?_ rfl rfl
  simp only [Bool.not_eq_true', decide_eq_false_iff_not]
  omega

/-- Nothing is lost and nothing drawn twice: the markers that are drawn by themselves and those of
the clusters are the markers with a position. -/
theorem singles_append_members_perm :
    ((clusterMarkers v cellSize ms).singles ++
      (clusterMarkers v cellSize ms).clusters.flatMap fun c => v.inCell cellSize ms c.key).Perm
      (ms.filter (·.isPlaced)) := by
  let crowded := fun k => decide (2 ≤ (v.inCell cellSize ms k).length)
  have hclusters : ((clusterMarkers v cellSize ms).clusters.flatMap
      fun c => v.inCell cellSize ms c.key) =
        ((v.cells cellSize ms).filter crowded).flatMap (v.inCell cellSize ms) := by
    rw [← List.flatMap_map (fun c : Cluster α => c.key) (v.inCell cellSize ms),
      map_key_clusters]
  rw [singles_eq_flatMap, hclusters, ← List.flatMap_append]
  -- Every cell is crowded or not, and the cells take the markers with a position apart.
  have hsplit := List.perm_append_comm.trans (List.filter_append_perm crowded (v.cells cellSize ms))
  exact (hsplit.flatMap_right _).trans (v.flatMap_inCell_perm cellSize ms)

/-- Two markers in one cell are drawn as one. -/
theorem clusterMarkers_neighbours {m n : Marker α} {p q : Point α} {key : CellKey}
    (hm : m.position = some p) (hn : n.position = some q)
    (hp : CellKey.ofScreen cellSize (v.worldToScreen p) = key)
    (hq : CellKey.ofScreen cellSize (v.worldToScreen q) = key) :
    clusterMarkers v cellSize [m, n] = ⟨[], [⟨key, (p + q).scale (1 / Scalar.ofNat 2), 2,
      (if m.done then 1 else 0) + if n.done then 1 else 0⟩]⟩ := by
  have hgroups : cellGroups v cellSize [m, n] = [(CellGroup.start key m p).add n q] := by
    simp [cellGroups, hm, hn, hp, hq, CellGroup.insert, CellGroup.start]
  simp only [clusterMarkers, hgroups]
  rfl

/-- Two markers at one point are drawn as one. -/
theorem clusterMarkers_pair {m n : Marker α} {p : Point α} (hm : m.position = some p)
    (hn : n.position = some p) : (clusterMarkers v cellSize [m, n]).singles = [] ∧
      (clusterMarkers v cellSize [m, n]).clusters.map (fun c => (c.count, c.doneCount)) =
        [(2, (if m.done then 1 else 0) + if n.done then 1 else 0)] := by
  rw [v.clusterMarkers_neighbours cellSize hm hn rfl rfl]
  exact ⟨rfl, rfl⟩

end Viewport

end MarkerAtlas
