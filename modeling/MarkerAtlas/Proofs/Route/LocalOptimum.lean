import MarkerAtlas.Proofs.Route.Shortening
import MarkerAtlas.Proofs.Route.Nearest

/-!
# Where no stretch is worth turning around

Passes over a route add up, and they come to an end where one more of them changes nothing. In exact
arithmetic such a pass has turned no stretch, since a turned stretch makes the route shorter. It has
tried them all and found that none pays, which says that turning one around does not make the route
shorter by more than the least gain. Routes in which only two stops may move are not gone through,
but the greedy walk that made them has already put the nearer one first.
-/

namespace MarkerAtlas

/-! ## Stretches of a list -/

/-- The list with the stretch from place `i` to place `k` turned around. -/
def turnStretch {β : Type} (i k : Nat) (l : List β) : List β :=
  l.take i ++ ((l.drop i).take (k + 1 - i)).reverse ++ l.drop (k + 1)

theorem map_turnStretch {β γ : Type} (f : β → γ) (i k : Nat) (l : List β) :
    (turnStretch i k l).map f = turnStretch i k (l.map f) := by
  simp only [turnStretch, List.map_append, List.map_reverse, List.map_take, List.map_drop]

theorem turnStretch_eq_turnAround {α : Type} (i j : Nat) (stops : List (Stop α)) :
    turnStretch i (i + j) stops = stops.take i ++ turnAround j (stops.drop i) := by
  have hlength : i + j + 1 - i = j + 1 := by omega
  rw [turnStretch, turnAround, List.drop_drop, hlength, List.append_assoc, Nat.add_assoc]

variable {K : Type} [ExactField K] {dist : Metric K}

/-! ## No stretch pays -/

theorem exists_position_ofOrder {α : Type} {points : List (RoutePoint α)} {order : List String}
    (h : ∀ id ∈ order, id ∈ points.map (·.id)) :
    ∀ s ∈ Stop.ofOrder points order, ∃ p, s.position = some p := by
  intro s hs
  obtain ⟨id, hid, rfl⟩ := List.mem_map.mp hs
  exact exists_locate (h id hid)

/-- The way to a place leads to where one comes from. -/
theorem getLast?_path_or {K : Type} {start p : Point K} {fixedStart : Bool}
    {stops : List (Stop K)} {i : Nat}
    (hi : (if fixedStart then 1 else 0) ≤ i) (hp : cameFrom (some start) stops i = some p) :
    (Stop.path (stops.take i)).getLast?.or (if fixedStart then none else some start) = some p := by
  cases i with
  | zero =>
    cases fixedStart with
    | true => exact absurd hi (by decide)
    | false => exact hp
  | succ i => rw [getLast?_path_take hp, Option.some_or]

/-- Where no stretch pays, turning one around does not make the way shorter by more than the least
gain. -/
theorem NonePays.le_turnStretch (hsym : ∀ p q, dist p q = dist q p) {start : Point K}
    {fixedStart : Bool} {stops : List (Stop K)} (h : NonePays dist start fixedStart stops)
    (hknown : ∀ s ∈ stops, ∃ p, s.position = some p) {i k : Nat}
    (hi : (if fixedStart then 1 else 0) ≤ i) (hik : i < k) (hk : k < stops.length) :
    wayLength dist (if fixedStart then none else some start) (Stop.path stops) ≤
      wayLength dist (if fixedStart then none else some start)
        (Stop.path (turnStretch i k stops)) + minGain := by
  obtain ⟨j, rfl⟩ : ∃ j, k = i + j := ⟨k - i, by omega⟩
  have hknownAt : ∀ n < stops.length, ∃ p, stops[n]?.bind (·.position) = some p := by
    intro n hn
    obtain ⟨p, hp⟩ := hknown stops[n] (List.getElem_mem hn)
    exact ⟨p, by rw [List.getElem?_eq_getElem hn, Option.bind_some, hp]⟩
  obtain ⟨p, hp⟩ : ∃ p, cameFrom (some start) stops i = some p := by
    cases i with
    | zero => exact ⟨start, rfl⟩
    | succ i => exact hknownAt i (by omega)
  obtain ⟨a, ha⟩ := hknownAt i (by omega)
  obtain ⟨b, hb⟩ := hknownAt (i + j) hk
  have hpays := h i j p hi (by omega) hk hp
  have hfirst : (stops.drop i)[0]?.bind (·.position) = some a := by
    rwa [List.getElem?_drop, Nat.add_zero]
  have hlast : (stops.drop i)[j]?.bind (·.position) = some b := by rwa [List.getElem?_drop]
  have hnext : ∀ next, (stops.drop i)[j + 1]? = some next → ∃ c, next.position = some c := by
    intro next hnext
    rw [List.getElem?_drop] at hnext
    exact hknown next (List.mem_of_getElem? hnext)
  have hiff : paysToTurn dist p j (stops.drop i) = true ↔ _ :=
    paysToTurn_iff hsym hfirst hlast hnext
  -- Up to place `i` the two ways are the same.
  have hway : ∀ rest, wayLength dist (if fixedStart then none else some start)
      (Stop.path (stops.take i ++ rest)) =
        wayLength dist (if fixedStart then none else some start) (Stop.path (stops.take i)) +
          wayLength dist (some p) (Stop.path rest) := by
    intro rest
    rw [Stop.path, List.filterMap_append, wayLength_append]
    rw [← Stop.path, ← Stop.path, getLast?_path_or hi hp]
  have hle := not_lt.mp (mt hiff.mpr (Bool.eq_false_iff.mp hpays))
  have hstops := hway (stops.drop i)
  rw [List.take_append_drop] at hstops
  rw [turnStretch_eq_turnAround, hway, hstops]
  linarith

/-! ## Which routes are done -/

/-- A pass that leaves an order as it is has turned no stretch, since the way would be shorter. -/
theorem nonePays_of_twoOpt_eq (hsym : ∀ p q, dist p q = dist q p) {start : Point K}
    {order : List String} {points : List (RoutePoint K)} {fixedStart : Bool}
    (hlong : ¬ order.length < if fixedStart then 4 else 3)
    (h : twoOpt dist start order points fixedStart 1 = order) :
    NonePays dist start fixedStart (Stop.ofOrder points order) := by
  have hstops := (improve_perm dist start fixedStart 1 (Stop.ofOrder points order)).1
  rw [twoOpt_of_long hlong] at h
  -- The stops are found again from their ids, so that they have not been moved either.
  have hsame := Stop.ofOrder_map_id hstops
  rw [h] at hsame
  cases hturned : (improveOnce dist start fixedStart (Stop.ofOrder points order)).2 with
  | false => exact (improveOnce_of_unturned hturned).2
  | true =>
    have hshorter := improveOnce_improved hsym start fixedStart (Stop.ofOrder points order)
    rw [improve_of_turned hturned, improve] at hsame
    rw [hturned, ← hsame, Improved.true_iff] at hshorter
    exact absurd hshorter (by linarith [minGain_pos (K := K)])

theorem ExactField.rankedBy_id : RankedBy (id : K → K) Set.univ :=
  ⟨fun _ _ _ _ => Iff.rfl, fun _ _ _ _ => Iff.rfl⟩

/-- The greedy walk has no farther way to its first point than to the others. -/
theorem visitNearest_head_le {here : Point K} {left rest : List (RoutePoint K)} {p : RoutePoint K}
    (h : visitNearest dist left.length here left = p :: rest) :
    ∀ q ∈ rest, dist here p.position ≤ dist here q.position := by
  have hne : left ≠ [] := by
    rintro rfl
    cases h
  obtain ⟨t, p', -, hleast, hvisit⟩ := visitNearest_succ ExactField.rankedBy_id hne
    fun q _ => Set.mem_univ (dist here q.position)
  obtain ⟨n, hn⟩ : ∃ n, left.length = n + 1 :=
    Nat.exists_eq_succ_of_ne_zero (mt List.length_eq_zero_iff.mp hne)
  intro q hq
  have hq' : q ∈ left := (visitNearest_perm dist here left).mem_iff.mp
    (h ▸ List.mem_cons_of_mem p hq)
  rw [hn, hvisit] at h
  obtain ⟨rfl, -⟩ := List.cons.inj h
  exact hleast.le q hq'

/-- Of two points that a greedy walk goes to last the nearer one comes first. -/
theorem paysToTurn_visitNearest {points left : List (RoutePoint K)}
    (hnd : (points.map (·.id)).Nodup) (hsub : left ⊆ points) (here : Point K)
    (hlength : (visitNearest dist left.length here left).length = 2) :
    paysToTurn dist here 1
      (Stop.ofOrder points ((visitNearest dist left.length here left).map (·.id))) = false := by
  obtain ⟨a, b, hab⟩ := List.length_eq_two.mp hlength
  have hmem : ∀ p ∈ [a, b], RoutePoint.locate points p.id = some p.position := by
    intro p hp
    rw [← hab] at hp
    exact locate_of_mem hnd (hsub ((visitNearest_perm dist here left).mem_iff.mp hp))
  have hle := visitNearest_head_le hab b (List.mem_singleton.mpr rfl)
  have hpos := minGain_pos (K := K)
  have ha := hmem a List.mem_cons_self
  have hb := hmem b (List.mem_cons_of_mem a List.mem_cons_self)
  rw [hab]
  simp only [Stop.ofOrder, List.map_cons, List.map_nil, ha, hb, paysToTurn, List.getElem?_cons_zero,
    List.getElem?_cons_succ, List.getElem?_nil, Option.bind_some, add_zero, decide_eq_false_iff_not]
  linarith

/-- A greedy order in which only two stops may move needs no turning. -/
theorem nonePays_of_short {startId : Option String} {start : Point K}
    {points : List (RoutePoint K)} (hnd : (points.map (·.id)).Nodup)
    (hshort : (nearestNeighbor dist startId start points).order.length <
      if (nearestNeighbor dist startId start points).fixedStart then 4 else 3) :
    NonePays dist start (nearestNeighbor dist startId start points).fixedStart
      (Stop.ofOrder points (nearestNeighbor dist startId start points).order) := by
  intro i j p hi hj hlt hp
  cases hindex : startIndex startId points with
  | none =>
    rw [nearestNeighbor_of_none hindex] at hi hlt hp hshort ⊢
    simp only [Stop.ofOrder, List.length_map, Bool.false_eq_true, if_false] at hlt hshort
    obtain ⟨rfl, rfl⟩ : i = 0 ∧ j = 1 := by omega
    obtain rfl : start = p := Option.some.inj hp
    exact paysToTurn_visitNearest hnd (List.Subset.refl points) start (by omega)
  | some t =>
    obtain ⟨id, -, hfind⟩ := Option.bind_eq_some_iff.mp hindex
    obtain ⟨htlt, -, -⟩ := List.findIdx?_eq_some_iff_getElem.mp hfind
    have hget : points[t]? = some points[t] := List.getElem?_eq_getElem htlt
    rw [nearestNeighbor_of_some hindex hget] at hi hlt hp hshort ⊢
    simp only [Stop.ofOrder, List.length_map, List.length_cons, if_true] at hi hlt hshort
    obtain ⟨rfl, rfl⟩ : i = 1 ∧ j = 1 := by omega
    have hlocated := locate_of_mem hnd (List.getElem_mem htlt)
    obtain rfl : points[t].position = p := Option.some.inj (hlocated.symm.trans hp)
    exact paysToTurn_visitNearest hnd (List.eraseIdx_sublist points t).subset _ (by omega)

/-! ## Passes on planned routes -/

theorem RouteSettings.plan_ok {s : RouteSettings} {startId : Option String} {start : Point K}
    {points : List (RoutePoint K)} {r : Route K} (h : s.plan dist startId start points = .ok r) :
    r.fixedStart = (nearestNeighbor dist startId start points).fixedStart ∧
      r.order = twoOpt dist start (nearestNeighbor dist startId start points).order points
        r.fixedStart s.passes := by
  unfold plan at h
  split at h
  · cases h
  · cases h
    exact ⟨rfl, rfl⟩

/-- In a planned route that one more pass leaves as it is no stretch pays. -/
theorem nonePays_of_plan (hsym : ∀ p q, dist p q = dist q p) {s : RouteSettings}
    {startId : Option String} {start : Point K} {points : List (RoutePoint K)} {r : Route K}
    (hnd : (points.map (·.id)).Nodup) (hplan : s.plan dist startId start points = .ok r)
    (hdone : twoOpt dist start r.order points r.fixedStart 1 = r.order) :
    NonePays dist start r.fixedStart (Stop.ofOrder points r.order) := by
  obtain ⟨hfixed, horder⟩ := RouteSettings.plan_ok hplan
  by_cases hlong : ¬ r.order.length < if r.fixedStart then 4 else 3
  · exact nonePays_of_twoOpt_eq hsym hlong hdone
  · -- The passes have left the greedy order as it was.
    have hlength := (twoOpt_perm dist start (nearestNeighbor dist startId start points).order points
      r.fixedStart s.passes).1.length_eq
    have hshort := not_not.mp hlong
    rw [horder, hlength] at hshort
    rw [horder, twoOpt_of_short hshort, hfixed]
    rw [hfixed] at hshort
    exact nonePays_of_short hnd hshort

/-- **Passes add up and end in a local optimum.** Improving a route with some passes and then with
some more is improving it with all of them, so that stopping after a pass that changed nothing
leaves nothing out. In exact arithmetic with a symmetric distance, and for points with different
ids, a planned route that one more pass leaves as it is cannot be made shorter by more than the
least gain by turning one stretch around, wherever it begins and ends and however few stops may
move. -/
theorem passes_end_in_local_optimum :
    (∀ (α : Type) [Scalar α] (dist : Metric α) (start : Point α) (order : List String)
      (points : List (RoutePoint α)) (fixedStart : Bool) (p q : Nat),
      twoOpt dist start order points fixedStart (p + q) =
        twoOpt dist start (twoOpt dist start order points fixedStart p) points fixedStart q) ∧
    ∀ (K : Type) [ExactField K] (dist : Metric K), (∀ p q, dist p q = dist q p) →
      ∀ (s : RouteSettings) (startId : Option String) (start : Point K)
        (points : List (RoutePoint K)) (r : Route K), (points.map (·.id)).Nodup →
        s.plan dist startId start points = .ok r →
        twoOpt dist start r.order points r.fixedStart 1 = r.order →
        ∀ i k, (if r.fixedStart then 1 else 0) ≤ i → i < k → k < r.order.length →
          routeDistance dist start r.order points r.fixedStart - 1 / 10 ^ 9 ≤
            routeDistance dist start (turnStretch i k r.order) points r.fixedStart := by
  refine ⟨fun α _ dist => twoOpt_add dist, ?_⟩
  intro K _ dist hsym s startId start points r hnd hplan hdone i k hi hik hk
  have hnone := nonePays_of_plan hsym hnd hplan hdone
  have hids : ∀ id ∈ r.order, id ∈ points.map (·.id) :=
    fun id hid => (RouteSettings.isTour_of_plan hplan).perm.mem_iff.mp hid
  have hlength : (Stop.ofOrder points r.order).length = r.order.length := List.length_map _
  have hle := hnone.le_turnStretch hsym (exists_position_ofOrder hids) hi hik (hlength ▸ hk)
  -- The stops that are turned around are those of the order that is turned around.
  rw [Stop.ofOrder, ← map_turnStretch] at hle
  have hpath : ∀ order, Stop.path (Stop.ofOrder points order) =
      order.filterMap (RoutePoint.locate points) := by
    intro order
    rw [Stop.path, Stop.ofOrder, List.filterMap_map]
    rfl
  rw [← Stop.ofOrder, ← Stop.ofOrder, hpath, hpath, minGain_eq] at hle
  rw [routeDistance_eq, routeDistance_eq]
  linarith

/-- Home is one of the points and the start: from there the points lie one behind the other. -/
theorem local_optimum_from_home :
    ∃ (dist : Metric ℝ) (points : List (RoutePoint ℝ)) (start : Point ℝ) (r : Route ℝ),
      (⟨200, 2⟩ : RouteSettings).plan dist (some "home") start points = .ok r ∧
      r.fixedStart = true ∧ r.order = ["home", "near", "mid", "far"] ∧
      routeDistance dist start r.order points r.fixedStart - 1 / 10 ^ 9 ≤
        routeDistance dist start ["home", "far", "mid", "near"] points r.fixedStart := by
  let dist : Metric ℝ := fun p q => |p.x - q.x|
  let points : List (RoutePoint ℝ) :=
    [⟨"far", ⟨10, 0⟩⟩, ⟨"near", ⟨1, 0⟩⟩, ⟨"home", ⟨0, 0⟩⟩, ⟨"mid", ⟨5, 0⟩⟩]
  let order := ["home", "near", "mid", "far"]
  have hsym : ∀ p q, dist p q = dist q p := fun p q => abs_sub_comm p.x q.x
  have hnd : (points.map (·.id)).Nodup := by
    show ["far", "near", "home", "mid"].Nodup
    decide
  have hfirst : nearestNeighbor dist (some "home") ⟨0, 0⟩ points = ⟨order, true⟩ := by
    have hindex : startIndex (some "home") points = some 2 := rfl
    have hhome : points[2]? = some ⟨"home", ⟨0, 0⟩⟩ := rfl
    rw [nearestNeighbor_of_some hindex hhome]
    norm_num [points, order, dist, visitNearest, leastIndex, leastIndexFrom]
  -- No stretch of the greedy order pays, so that the passes leave it as it is.
  have honce : (improveOnce dist ⟨0, 0⟩ true (Stop.ofOrder points order)).2 = false := by
    have hfar : RoutePoint.locate points "far" = some ⟨10, 0⟩ := rfl
    have hnear : RoutePoint.locate points "near" = some ⟨1, 0⟩ := rfl
    have hhome : RoutePoint.locate points "home" = some ⟨0, 0⟩ := rfl
    have hmid : RoutePoint.locate points "mid" = some ⟨5, 0⟩ := rfl
    norm_num [Stop.ofOrder, order, improveOnce, improveFrom, improveHead, paysToTurn, hhome, hfar,
      hmid, hnear, minGain_eq, dist]
  have hdone : ∀ passes, twoOpt dist ⟨0, 0⟩ order points true passes = order := by
    intro passes
    rw [twoOpt_of_long (by decide), improve_of_unturned honce, Stop.map_id_ofOrder]
  let r : Route ℝ :=
    ⟨⟨0, 0⟩, some "home", order, true, routeDistance dist ⟨0, 0⟩ order points true⟩
  have hplan : (⟨200, 2⟩ : RouteSettings).plan dist (some "home") ⟨0, 0⟩ points = .ok r := by
    unfold RouteSettings.plan
    rw [if_neg (by decide), hfirst]
    simp only [hdone]
    rfl
  exact ⟨dist, points, ⟨0, 0⟩, r, hplan, rfl, rfl,
    passes_end_in_local_optimum.2 ℝ dist hsym ⟨200, 2⟩ (some "home") ⟨0, 0⟩ points r hnd hplan
      (hdone 1) 1 3 (by decide) (by decide) (by decide)⟩

end MarkerAtlas
