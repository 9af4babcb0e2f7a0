import MarkerAtlas.Proofs.Route.Tour
import MarkerAtlas.Proofs.Scalar.Order

/-!
# The greedy walk goes to the nearest point next

The greedy walk scans what is left for the least distance, and a later point has to be nearer to be
taken instead. As long as the distances compare like the members of a linear order, as doubles do
that are numbers, each step goes to a point at minimal distance, and of several such points to the
one that was listed first. This holds of infinite distances as well.
-/

namespace MarkerAtlas

/-! ## The first of the least numbers -/

section least
variable {α κ : Type} [LinearOrder κ]

/-- `d` has the least rank of the numbers and stands at index `i`, and no earlier one has as low a
rank. -/
structure IsFirstLeast (rank : α → κ) (ds : List α) (i : Nat) (d : α) : Prop where
  getElem? : ds[i]? = some d
  le : ∀ e ∈ ds, rank d ≤ rank e
  lt : ∀ j e, j < i → ds[j]? = some e → rank d < rank e

namespace IsFirstLeast

variable {rank : α → κ} {seen : List α} {best : Nat} {least d : α}

theorem index_lt (h : IsFirstLeast rank seen best least) : best < seen.length :=
  (List.getElem?_eq_some_iff.mp h.getElem?).1

/-- A lesser number that is seen next takes the place. -/
theorem concat_of_lt (h : IsFirstLeast rank seen best least) (hlt : rank d < rank least) :
    IsFirstLeast rank (seen ++ [d]) seen.length d where
  getElem? := List.getElem?_concat_length
  le := by
    intro e he
    rcases List.mem_append.mp he with he | he
    · exact hlt.le.trans (h.le e he)
    · rw [List.mem_singleton.mp he]
  lt := by
    intro j e hj he
    rw [List.getElem?_append_left hj] at he
    exact hlt.trans_le (h.le e (List.mem_of_getElem? he))

/-- A number that is seen next and is no lesser one does not. -/
theorem concat_of_le (h : IsFirstLeast rank seen best least) (hle : rank least ≤ rank d) :
    IsFirstLeast rank (seen ++ [d]) best least where
  getElem? := (List.getElem?_append_left h.index_lt).trans h.getElem?
  le := by
    intro e he
    rcases List.mem_append.mp he with he | he
    · exact h.le e he
    · rwa [List.mem_singleton.mp he]
  lt := by
    intro j e hj he
    rw [List.getElem?_append_left (hj.trans h.index_lt)] at he
    exact h.lt j e hj he

end IsFirstLeast

end least

variable {α κ : Type} [Scalar α] [LinearOrder κ]

/-- The numbers in `V` compare as their ranks do. -/
structure RankedBy (rank : α → κ) (V : Set α) : Prop where
  lt_iff : ∀ x ∈ V, ∀ y ∈ V, (x < y ↔ rank x < rank y)
  le_iff : ∀ x ∈ V, ∀ y ∈ V, (x ≤ y ↔ rank x ≤ rank y)

theorem Double.rankedBy_rank : RankedBy Double.rank {x : Float | x.isNaN = false} :=
  ⟨fun _ hx _ hy => lt_iff_rank hx hy, fun _ hx _ hy => le_iff_rank hx hy⟩

section scan
variable {rank : α → κ} {V : Set α} (hrank : RankedBy rank V)
include hrank

/-- The scan goes on from the first of the least numbers that were seen. -/
theorem isFirstLeast_leastIndexFrom {seen ds : List α} {best : Nat} {least : α}
    (hbest : IsFirstLeast rank seen best least) (hleast : least ∈ V) (hds : ∀ d ∈ ds, d ∈ V) :
    ∃ d, IsFirstLeast rank (seen ++ ds) (leastIndexFrom best least seen.length ds) d := by
  induction ds generalizing seen best least with
  | nil => exact ⟨least, by rwa [List.append_nil]⟩
  | cons d ds ih =>
    have hd : d ∈ V := hds d List.mem_cons_self
    have hrest : ∀ e ∈ ds, e ∈ V := fun e he => hds e (List.mem_cons_of_mem d he)
    have hlength : seen.length + 1 = (seen ++ [d]).length := by simp
    rw [List.append_cons, leastIndexFrom, hlength]
    -- A number takes the place of the least one only if it is less, so that the first of several
    -- stays.
    by_cases hlt : d < least
    · rw [if_pos hlt]
      exact ih (hbest.concat_of_lt ((hrank.lt_iff d hd least hleast).mp hlt)) hd hrest
    · rw [if_neg hlt]
      have hle := not_lt.mp (mt (hrank.lt_iff d hd least hleast).mpr hlt)
      exact ih (hbest.concat_of_le hle) hleast hrest

theorem isFirstLeast_leastIndex {ds : List α} (hne : ds ≠ []) (hds : ∀ d ∈ ds, d ∈ V) :
    ∃ d, IsFirstLeast rank ds (leastIndex ds) d := by
  cases ds with
  | nil => exact absurd rfl hne
  | cons d ds =>
    have hfirst : IsFirstLeast rank [d] 0 d :=
      ⟨rfl, fun e he => by rw [List.mem_singleton.mp he], fun j e hj _ => absurd hj (by omega)⟩
    exact isFirstLeast_leastIndexFrom hrank hfirst (hds d List.mem_cons_self)
      fun e he => hds e (List.mem_cons_of_mem d he)

/-- A step of the greedy walk takes the first of the nearest points that are left. -/
theorem visitNearest_succ {dist : Metric α} {here : Point α} {left : List (RoutePoint α)}
    (hne : left ≠ []) (hleft : ∀ p ∈ left, dist here p.position ∈ V) :
    ∃ t p, left[t]? = some p ∧
      IsFirstLeast (fun q => rank (dist here q.position)) left t p ∧
      ∀ n, visitNearest dist (n + 1) here left =
        p :: visitNearest dist n p.position (left.eraseIdx t) := by
  have hdistances : (left.map fun p => dist here p.position) ≠ [] :=
    mt List.map_eq_nil_iff.mp hne
  obtain ⟨d, hd⟩ := isFirstLeast_leastIndex hrank hdistances (List.forall_mem_map.mpr hleft)
  -- What is least among the distances is told by its index, at which the point stands.
  have hget := hd.getElem?
  rw [List.getElem?_map, Option.map_eq_some_iff] at hget
  obtain ⟨p, hp, rfl⟩ := hget
  refine ⟨_, p, hp, ⟨hp, fun q hq => hd.le _ (List.mem_map_of_mem hq), fun j q hj hq => ?_⟩,
    fun n => ?_⟩
  · exact hd.lt j _ hj (by rw [List.getElem?_map, hq, Option.map_some])
  · simp only [visitNearest, hp]

end scan

/-! ## Which points are left -/

/-- What is left are the points whose indices are not used, in the order in which they were
listed. -/
structure LeftAt {α : Type} (points : List (RoutePoint α)) (used idx : List Nat)
    (left : List (RoutePoint α)) : Prop where
  sorted : idx.SortedLT
  mem_iff : ∀ j, j ∈ idx ↔ j < points.length ∧ j ∉ used
  map_some : left.map some = idx.map fun i => points[i]?

namespace LeftAt

variable {α : Type} {points left : List (RoutePoint α)} {used idx : List Nat} {t j : Nat}
  {p : RoutePoint α}

/-- At first all points are left. -/
theorem all (points : List (RoutePoint α)) :
    LeftAt points [] (List.range points.length) points where
  sorted := List.sortedLT_range points.length
  mem_iff := by simp
  map_some := by
    refine List.ext_getElem (by simp) fun i hi _ => ?_
    rw [List.length_map] at hi
    simp [hi]

theorem length_eq (h : LeftAt points used idx left) : left.length = idx.length := by
  simpa using congrArg List.length h.map_some

theorem getElem?_eq (h : LeftAt points used idx left) (ht : idx[t]? = some j) :
    left[t]? = points[j]? := by
  have hget := congrArg (fun l => l[t]?) h.map_some
  simp only [List.getElem?_map, ht, Option.map_some] at hget
  obtain ⟨p, hp, hpoint⟩ := Option.map_eq_some_iff.mp hget
  rw [hp, hpoint]

/-- A point whose index is not used is left. -/
theorem exists_getElem? (h : LeftAt points used idx left) (hp : points[j]? = some p)
    (hj : j ∉ used) : ∃ t : Nat, idx[t]? = some j ∧ left[t]? = some p := by
  have hmem := (h.mem_iff j).mpr ⟨(List.getElem?_eq_some_iff.mp hp).1, hj⟩
  obtain ⟨t, ht⟩ := List.mem_iff_getElem?.mp hmem
  exact ⟨t, ht, (h.getElem?_eq ht).trans hp⟩

/-- Taking a point uses its index. -/
theorem take (h : LeftAt points used idx left) (hp : left[t]? = some p) :
    ∃ i : Nat, idx[t]? = some i ∧ points[i]? = some p ∧ i ∉ used ∧
      LeftAt points (i :: used) (idx.eraseIdx t) (left.eraseIdx t) := by
  have ht : t < idx.length := h.length_eq ▸ (List.getElem?_eq_some_iff.mp hp).1
  have hi : idx[t]? = some idx[t] := List.getElem?_eq_getElem ht
  have hmem := (h.mem_iff idx[t]).mp (List.getElem_mem ht)
  refine ⟨idx[t], hi, (h.getElem?_eq hi).symm.trans hp, hmem.2, ?_, fun j => ?_, ?_⟩
  · exact (h.sorted.pairwise.eraseIdx t).sortedLT
  · rw [← h.sorted.nodup.erase_getElem t ht, h.sorted.nodup.mem_erase_iff, h.mem_iff,
      List.mem_cons]
    tauto
  · rw [← List.eraseIdx_map, ← List.eraseIdx_map, h.map_some]

end LeftAt

/-! ## Walks to the nearest point -/

/-- Of the points whose indices are not used, the one at index `i` is nearest, and of several that
are equally near it is the one listed first. -/
structure IsNearest (dist : Metric α) (points : List (RoutePoint α)) (used : List Nat)
    (here : Point α) (i : Nat) (p : RoutePoint α) : Prop where
  getElem? : points[i]? = some p
  unused : i ∉ used
  le : ∀ j q, points[j]? = some q → j ∉ used → dist here p.position ≤ dist here q.position
  lt : ∀ j q, points[j]? = some q → j ∉ used → j < i →
    dist here p.position < dist here q.position

/-- A walk through the points whose indices are not used, each step of which goes to the nearest
point next and uses its index. -/
inductive NearestWalk (dist : Metric α) (points : List (RoutePoint α)) :
    (used : List Nat) → (here : Point α) → (walk : List Nat) → Prop
  | nil {used : List Nat} {here : Point α} (hall : ∀ j < points.length, j ∈ used) :
    NearestWalk dist points used here []
  | cons {used : List Nat} {here : Point α} {i : Nat} {p : RoutePoint α} {walk : List Nat}
    (hnearest : IsNearest dist points used here i p)
    (hwalk : NearestWalk dist points (i :: used) p.position walk) :
    NearestWalk dist points used here (i :: walk)

section walk
variable {rank : α → κ} {V : Set α} (hrank : RankedBy rank V) {dist : Metric α}
  {points : List (RoutePoint α)}
include hrank

/-- The first of the nearest points that are left is the nearest one whose index is not used. -/
theorem LeftAt.isNearest {used idx : List Nat} {left : List (RoutePoint α)} {here : Point α}
    {t i : Nat} {p : RoutePoint α} (h : LeftAt points used idx left)
    (hhere : ∀ p ∈ left, dist here p.position ∈ V)
    (hleast : IsFirstLeast (fun q => rank (dist here q.position)) left t p)
    (hi : idx[t]? = some i) : IsNearest dist points used here i p := by
  have hpoint : points[i]? = some p := (h.getElem?_eq hi).symm.trans hleast.getElem?
  have hpV := hhere p (List.mem_of_getElem? hleast.getElem?)
  refine ⟨hpoint, ((h.mem_iff i).mp (List.mem_of_getElem? hi)).2, fun j q hq hj => ?_,
    fun j q hq hj hji => ?_⟩
  · -- A point whose index is not used is among those that are left.
    obtain ⟨s, -, hs⟩ := h.exists_getElem? hq hj
    have hqmem := List.mem_of_getElem? hs
    exact (hrank.le_iff _ hpV _ (hhere q hqmem)).mpr (hleast.le q hqmem)
  · obtain ⟨s, hsj, hs⟩ := h.exists_getElem? hq hj
    -- Indices that are left come in order, so that an earlier point is seen earlier.
    have hst : s < t := by
      obtain ⟨hs', rfl⟩ := List.getElem?_eq_some_iff.mp hsj
      obtain ⟨ht', rfl⟩ := List.getElem?_eq_some_iff.mp hi
      exact h.sorted.getElem_lt_getElem_iff.mp hji
    exact (hrank.lt_iff _ hpV _ (hhere q (List.mem_of_getElem? hs))).mpr (hleast.lt s q hst hs)

/-- The greedy walk through what is left goes to the nearest point next. -/
theorem nearestWalk_visitNearest
    (hbetween : ∀ (i j : Nat) (p q : RoutePoint α), i ≠ j → points[i]? = some p →
      points[j]? = some q → dist p.position q.position ∈ V)
    {used idx : List Nat} {left : List (RoutePoint α)} {here : Point α}
    (h : LeftAt points used idx left) (hhere : ∀ p ∈ left, dist here p.position ∈ V) :
    ∃ walk : List Nat,
      (visitNearest dist left.length here left).map some = walk.map (fun i => points[i]?) ∧
      walk.Perm idx ∧ NearestWalk dist points used here walk := by
  -- Induction on how many points are left: each step uses one index.
  induction hn : left.length generalizing used idx left here with
  | zero =>
    obtain rfl := List.length_eq_zero_iff.mp (h.length_eq.symm.trans hn)
    refine ⟨[], rfl, .nil, .nil fun j hj => ?_⟩
    exact not_not.mp fun hunused => List.not_mem_nil ((h.mem_iff j).mpr ⟨hj, hunused⟩)
  | succ n ih =>
    have hne : left ≠ [] := List.ne_nil_of_length_pos (by omega)
    obtain ⟨t, p, hp, hleast, hvisit⟩ := visitNearest_succ hrank hne hhere
    obtain ⟨i, hi, hpoint, -, hrest⟩ := h.take hp
    have hlength : (left.eraseIdx t).length = n := by
      rw [List.length_eraseIdx_of_lt (List.getElem?_eq_some_iff.mp hp).1, hn, Nat.add_sub_cancel]
    have hthere : ∀ q ∈ left.eraseIdx t, dist p.position q.position ∈ V := by
      intro q hq
      obtain ⟨s, hs⟩ := List.mem_iff_getElem?.mp hq
      obtain ⟨j, -, hj, hunused, -⟩ := hrest.take hs
      exact hbetween i j p q (fun heq => hunused (heq ▸ List.mem_cons_self)) hpoint hj
    obtain ⟨walk, hpoints, hperm, hwalk⟩ := ih hrest hthere hlength
    refine ⟨i :: walk, ?_, ?_, .cons (h.isNearest hrank hhere hleast hi) hwalk⟩
    · rw [hvisit, List.map_cons, List.map_cons, hpoints, hpoint]
    · obtain ⟨ht, rfl⟩ := List.getElem?_eq_some_iff.mp hi
      exact (hperm.cons _).trans (List.getElem_cons_eraseIdx_perm ht)

end walk

/-! ## The walk from the start -/

/-- The index of the point that the start is, if it is one of them: the first with its id. -/
def startIndex {α : Type} (startId : Option String) (points : List (RoutePoint α)) : Option Nat :=
  startId.bind fun id => points.findIdx? (·.id == id)

theorem nearestNeighbor_of_none {startId : Option String} {points : List (RoutePoint α)}
    (h : startIndex startId points = none) (dist : Metric α) (start : Point α) :
    nearestNeighbor dist startId start points =
      ⟨(visitNearest dist points.length start points).map (·.id), false⟩ := by
  unfold startIndex at h
  simp only [nearestNeighbor, h]

theorem nearestNeighbor_of_some {startId : Option String} {points : List (RoutePoint α)} {i : Nat}
    {p : RoutePoint α} (h : startIndex startId points = some i) (hp : points[i]? = some p)
    (dist : Metric α) (start : Point α) :
    nearestNeighbor dist startId start points =
      ⟨p.id :: (visitNearest dist (points.eraseIdx i).length p.position
        (points.eraseIdx i)).map (·.id), true⟩ := by
  unfold startIndex at h
  simp only [nearestNeighbor, h, hp]

/-- The ids along a walk, from the points along it. -/
theorem map_id_of_map_some {α : Type} {points visited : List (RoutePoint α)} {walk : List Nat}
    (h : visited.map some = walk.map fun i => points[i]?) :
    (visited.map (·.id)).map some = walk.map fun i => points[i]?.map (·.id) := by
  have hids := congrArg (List.map (Option.map (·.id))) h
  rw [List.map_map, List.map_map] at hids
  rw [List.map_map]
  exact hids

/-- **The greedy walk goes to the nearest point next.** Let the distances between the points be
numbers, and also those from the start if it is none of them; they may be infinite. Then the order
lists the ids of the points along a walk through all of them. The walk begins with the first point
that has the start's id, if there is one. Every other step goes to a point at minimal distance from
the one before it, or from the start if there is none before it, and of several such points whose
indices are not used to the one that was listed first. -/
theorem nearestNeighbor_walks (dist : Metric Float) (startId : Option String) (start : Point Float)
    (points : List (RoutePoint Float))
    (hbetween : ∀ (i j : Nat) (p q : RoutePoint Float), i ≠ j → points[i]? = some p →
      points[j]? = some q → (dist p.position q.position).isNaN = false)
    (hstart : startIndex startId points = none →
      ∀ p ∈ points, (dist start p.position).isNaN = false) :
    ∃ walk : List Nat,
      (nearestNeighbor dist startId start points).order.map some =
        walk.map (fun i => points[i]?.map (·.id)) ∧
      walk.Perm (List.range points.length) ∧
      match startIndex startId points with
      | none => NearestWalk dist points [] start walk
      | some i => ∃ p rest, points[i]? = some p ∧ walk = i :: rest ∧
          NearestWalk dist points [i] p.position rest := by
  have hall := LeftAt.all points
  -- The walk begins at the start itself, or with the point that has its id.
  cases hindex : startIndex startId points with
  | none =>
    obtain ⟨walk, hpoints, hperm, hwalk⟩ :=
      nearestWalk_visitNearest Double.rankedBy_rank hbetween hall (hstart hindex)
    exact ⟨walk, by rw [nearestNeighbor_of_none hindex, map_id_of_map_some hpoints], hperm, hwalk⟩
  | some i =>
    obtain ⟨id, -, hfind⟩ := Option.bind_eq_some_iff.mp hindex
    obtain ⟨hlt, -, -⟩ := List.findIdx?_eq_some_iff_getElem.mp hfind
    have hp : points[i]? = some points[i] := List.getElem?_eq_getElem hlt
    -- The start is taken out of what is left, where its index is `i` as well.
    obtain ⟨j, hj, -, -, hleft⟩ := hall.take hp
    obtain ⟨hlt', rfl⟩ := List.getElem?_eq_some_iff.mp hj
    rw [List.getElem_range] at hleft
    have hthere : ∀ q ∈ points.eraseIdx i,
        (dist points[i].position q.position).isNaN = false := by
      intro q hq
      obtain ⟨s, hs⟩ := List.mem_iff_getElem?.mp hq
      obtain ⟨j, -, hj, hunused, -⟩ := hleft.take hs
      exact hbetween i j _ q (fun heq => hunused (heq ▸ List.mem_cons_self)) hp hj
    obtain ⟨rest, hpoints, hperm, hwalk⟩ :=
      nearestWalk_visitNearest Double.rankedBy_rank hbetween hleft hthere
    refine ⟨i :: rest, ?_, ?_, points[i], rest, hp, rfl, hwalk⟩
    · rw [nearestNeighbor_of_some hindex hp, List.map_cons, List.map_cons,
        map_id_of_map_some hpoints, hp, Option.map_some]
    · have htake := List.getElem_cons_eraseIdx_perm hlt'
      rw [List.getElem_range] at htake
      exact (hperm.cons i).trans htake

/-- Three points that are infinitely far from each other, two of them with one id: the walk begins
with the second one, and goes to the others in the order in which they were listed. -/
theorem nearestNeighbor_walks_among_infinite :
    ∃ points : List (RoutePoint Float),
      (nearestNeighbor Point.distance (some "a") Point.origin points).order = ["a", "z", "z"] ∧
      ∃ walk : List Nat, walk.Perm [0, 1, 2] ∧ ∃ p rest, points[1]? = some p ∧
        walk = 1 :: rest ∧ NearestWalk Point.distance points [1] p.position rest := by
  let far : Float := 1.0 / 0.0
  let points : List (RoutePoint Float) :=
    [⟨"z", ⟨far, 0⟩⟩, ⟨"a", ⟨0, far⟩⟩, ⟨"z", ⟨-far, 0⟩⟩]
  -- Infinities of one sign are subtracted nowhere, so that all distances are infinite.
  have hfar : ∀ i j : Fin 3, i ≠ j →
      (Point.distance points[i].position points[j].position).isNaN = false := by decide +kernel
  have horder : (nearestNeighbor Point.distance (some "a") Point.origin points).order =
      ["a", "z", "z"] := by decide +kernel
  have hindex : startIndex (some "a") points = some 1 := by decide +kernel
  obtain ⟨walk, -, hperm, hwalk⟩ :=
    nearestNeighbor_walks Point.distance (some "a") Point.origin points
      (by
        intro i j p q hij hp hq
        obtain ⟨hi, rfl⟩ := List.getElem?_eq_some_iff.mp hp
        obtain ⟨hj, rfl⟩ := List.getElem?_eq_some_iff.mp hq
        exact hfar ⟨i, hi⟩ ⟨j, hj⟩ fun heq => hij (Fin.mk.inj heq))
      (by
        rw [hindex]
        intro hnone
        cases hnone)
  rw [hindex] at hwalk
  exact ⟨points, horder, walk, hperm, hwalk⟩

end MarkerAtlas
