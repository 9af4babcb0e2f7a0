import MarkerAtlas.Proofs.Scalar.Exact
import MarkerAtlas.Proofs.Route.Passes

/-!
# Turning stretches around shortens a route

Whether a stretch is turned is decided by the two legs at its ends. Inside the stretch the same
legs are walked the other way, so where distances are symmetric the whole route gets shorter by
what the two legs do. Stops that are not known do not change this: they are passed over when the
length is measured, and no stretch is turned that begins or ends at one of them, comes from one or
goes on to one.
-/

namespace MarkerAtlas

/-! ## Paths -/

section path
variable {α : Type} {a b : Point α} {k : Nat} {stops : List (Stop α)}

/-- The points that are known of some stops. -/
def Stop.path (stops : List (Stop α)) : List (Point α) := stops.filterMap (·.position)

theorem path_turnAround (k : Nat) (stops : List (Stop α)) :
    Stop.path (turnAround k stops) =
      (Stop.path (stops.take (k + 1))).reverse ++ Stop.path (stops.drop (k + 1)) := by
  rw [Stop.path, turnAround, List.filterMap_append, List.filterMap_reverse]
  rfl

theorem path_eq_append (k : Nat) (stops : List (Stop α)) :
    Stop.path stops = Stop.path (stops.take k) ++ Stop.path (stops.drop k) := by
  rw [Stop.path, Stop.path, Stop.path, ← List.filterMap_append, List.take_append_drop]

theorem head?_path_take (h : stops[0]?.bind (·.position) = some a) :
    (Stop.path (stops.take (k + 1))).head? = some a := by
  cases stops with
  | nil => cases h
  | cons stop rest =>
    have hstop : stop.position = some a := h
    rw [Stop.path, List.take_succ_cons, List.filterMap_cons_some hstop]
    rfl

theorem getLast?_path_take (h : stops[k]?.bind (·.position) = some b) :
    (Stop.path (stops.take (k + 1))).getLast? = some b := by
  obtain ⟨stop, hstop, hb⟩ := Option.bind_eq_some_iff.mp h
  rw [Stop.path, List.take_add_one, hstop, List.filterMap_append]
  simp [hb]

/-- Stops that lie where their ids say have the points of their ids. -/
theorem path_eq_locate {points : List (RoutePoint α)}
    (h : ∀ s ∈ stops, s.position = RoutePoint.locate points s.id) :
    Stop.path stops = (stops.map (·.id)).filterMap (RoutePoint.locate points) := by
  rw [List.filterMap_map]
  exact List.filterMap_congr h

end path

/-! ## Lengths -/

variable {K : Type} [ExactField K] {dist : Metric K}

/-- The length of the way through some points, coming from `base` if there is one. -/
def wayLength (dist : Metric K) : (base : Option (Point K)) → List (Point K) → K
  | _, [] => 0
  | none, q :: qs => wayLength dist (some q) qs
  | some p, q :: qs => dist p q + wayLength dist (some q) qs

theorem legsFrom_eq_add (total : K) (p : Point K) (qs : List (Point K)) :
    legsFrom dist total p qs = total + wayLength dist (some p) qs := by
  induction qs generalizing total p with
  | nil => exact (add_zero total).symm
  | cons q qs ih =>
    rw [legsFrom, ih, wayLength]
    exact add_assoc total _ _

theorem routeDistance_eq (start : Point K) (order : List String) (points : List (RoutePoint K))
    (fixedStart : Bool) :
    routeDistance dist start order points fixedStart =
      wayLength dist (if fixedStart then none else some start)
        (order.filterMap (RoutePoint.locate points)) := by
  unfold routeDistance
  cases order.filterMap (RoutePoint.locate points) with
  | nil => cases fixedStart <;> rfl
  | cons first rest =>
    cases fixedStart with
    | true => exact (legsFrom_eq_add 0 first rest).trans (zero_add _)
    | false => exact legsFrom_eq_add (dist start first) first rest

theorem wayLength_append (base : Option (Point K)) (ps qs : List (Point K)) :
    wayLength dist base (ps ++ qs) =
      wayLength dist base ps + wayLength dist (ps.getLast?.or base) qs := by
  -- By induction on the first part, at the end of which the second one begins.
  induction ps generalizing base with
  | nil => exact (zero_add _).symm
  | cons p ps ih =>
    have hlast : (p :: ps).getLast?.or base = ps.getLast?.or (some p) := by
      rw [List.getLast?_cons]
      cases ps.getLast? <;> rfl
    rw [List.cons_append, hlast]
    cases base with
    | none => exact ih (some p)
    | some b => simp only [wayLength, ih (some p), add_assoc]

theorem wayLength_some {p a : Point K} {qs : List (Point K)} (h : qs.head? = some a) :
    wayLength dist (some p) qs = dist p a + wayLength dist none qs := by
  cases qs with
  | nil => cases h
  | cons q qs =>
    obtain rfl : q = a := Option.some.inj h
    rfl

/-- The same legs the other way round. -/
theorem wayLength_reverse (hsym : ∀ p q, dist p q = dist q p) (ps : List (Point K)) :
    wayLength dist none ps.reverse = wayLength dist none ps := by
  induction ps with
  | nil => rfl
  | cons p ps ih =>
    rw [List.reverse_cons, wayLength_append, ih, List.getLast?_reverse, Option.or_none]
    cases ps with
    | nil => exact add_zero _
    | cons q qs =>
      show _ + (dist q p + 0) = dist p q + wayLength dist (some q) qs
      rw [hsym q p, add_zero, add_comm]
      rfl

/-- Turning the points from `a` to `b` around changes no more than the legs at their ends. -/
theorem wayLength_turned (hsym : ∀ p q, dist p q = dist q p) (p : Point K) {a b : Point K}
    {ps : List (Point K)} (qs : List (Point K)) (hhead : ps.head? = some a)
    (hlast : ps.getLast? = some b) :
    wayLength dist (some p) (ps.reverse ++ qs) + (dist p a + wayLength dist (some b) qs) =
      wayLength dist (some p) (ps ++ qs) + (dist p b + wayLength dist (some a) qs) := by
  have hhead' : ps.reverse.head? = some b := by rw [List.head?_reverse, hlast]
  have hlast' : ps.reverse.getLast? = some a := by rw [List.getLast?_reverse, hhead]
  rw [wayLength_append, wayLength_append, wayLength_some hhead, wayLength_some hhead',
    wayLength_reverse hsym, hlast, hlast', Option.some_or, Option.some_or]
  ring

/-! ## What makes a route better -/

theorem minGain_eq : (minGain : K) = 1 / 10 ^ 9 := by
  show ((1 : ℕ) : K) / 10 ^ 9 = 1 / 10 ^ 9
  rw [Nat.cast_one]

theorem minGain_pos : 0 < (minGain : K) := by
  rw [minGain_eq]
  positivity

/-- The stops are the same, or the way through them is shorter by more than the least gain. -/
def Shortened (dist : Metric K) (base : Option (Point K)) (before after : List (Stop K)) : Prop :=
  after = before ∨
    wayLength dist base (Stop.path after) + minGain < wayLength dist base (Stop.path before)

/-- What a pass says of itself: if a stretch was turned the way is shorter by more than the least
gain, and else the stops are the same. -/
def Improved (dist : Metric K) (base : Option (Point K)) (before after : List (Stop K)) :
    (turned : Bool) → Prop
  | true => wayLength dist base (Stop.path after) + minGain < wayLength dist base (Stop.path before)
  | false => after = before

namespace Improved

variable {base : Option (Point K)} {stops stops' stops'' : List (Stop K)} {turned turned' : Bool}

theorem true_iff : Improved dist base stops stops' true ↔
    wayLength dist base (Stop.path stops') + minGain < wayLength dist base (Stop.path stops) :=
  Iff.rfl

theorem refl (stops : List (Stop K)) : Improved dist base stops stops false := rfl

theorem shortened (h : Improved dist base stops stops' turned) :
    Shortened dist base stops stops' := by
  cases turned with
  | false => exact .inl h
  | true => exact .inr h

theorem trans (h : Improved dist base stops stops' turned)
    (h' : Improved dist base stops' stops'' turned') :
    Improved dist base stops stops'' (turned || turned') := by
  cases turned with
  | false =>
    obtain rfl : stops' = stops := h
    exact h'
  | true =>
    cases turned' with
    | false =>
      obtain rfl : stops'' = stops' := h'
      exact h
    | true =>
      -- Two gains are more than one, as the least gain is positive.
      have hpos := minGain_pos (K := K)
      rw [Bool.or_true, true_iff] at *
      linarith

/-- What comes after a stop is measured from it, or from where one came from if it is not known. -/
theorem cons {stop : Stop K} (h : Improved dist (stop.position.or base) stops stops' turned) :
    Improved dist base (stop :: stops) (stop :: stops') turned := by
  cases turned with
  | false => exact congrArg (stop :: ·) h
  | true =>
    rw [true_iff] at h ⊢
    -- A stop without a position adds nothing to the way.
    cases hposition : stop.position with
    | none =>
      rw [hposition, Option.none_or] at h
      simpa only [Stop.path, List.filterMap_cons, hposition] using h
    | some p =>
      rw [hposition, Option.some_or] at h
      simp only [Stop.path, List.filterMap_cons, hposition] at h ⊢
      cases base with
      | none => exact h
      | some b =>
        simp only [wayLength]
        linarith

end Improved

/-! ## Turning one stretch around -/

section
variable {previous a b : Point K} {k : Nat} {stops : List (Stop K)}

/-- A stretch is turned only if its ends are known, and the stop behind it if there is one. -/
theorem known_of_paysToTurn (h : paysToTurn dist previous k stops = true) :
    ∃ a b, stops[0]?.bind (·.position) = some a ∧ stops[k]?.bind (·.position) = some b ∧
      ∀ next, stops[k + 1]? = some next → ∃ c, next.position = some c := by
  unfold paysToTurn at h
  split at h
  · next a b ha hb =>
    refine ⟨a, b, ha, hb, fun next hnext => ?_⟩
    rw [hnext] at h
    cases hc : next.position with
    | none => simp [hc] at h
    | some c => exact ⟨c, rfl⟩
  · cases h

/-- Where stops are known, a stretch is turned just if this makes the way shorter by more than the
least gain. -/
theorem paysToTurn_iff (hsym : ∀ p q, dist p q = dist q p)
    (ha : stops[0]?.bind (·.position) = some a) (hb : stops[k]?.bind (·.position) = some b)
    (hnext : ∀ next, stops[k + 1]? = some next → ∃ c, next.position = some c) :
    paysToTurn dist previous k stops = true ↔
      wayLength dist (some previous) (Stop.path (turnAround k stops)) + minGain <
        wayLength dist (some previous) (Stop.path stops) := by
  -- Turning changes the way at both ends of the stretch and, distances being symmetric, not within
  -- it.
  have hturned := wayLength_turned hsym previous (Stop.path (stops.drop (k + 1)))
    (head?_path_take (k := k) ha) (getLast?_path_take hb)
  rw [← path_turnAround, ← path_eq_append] at hturned
  unfold paysToTurn
  rw [ha, hb]
  cases hend : stops[k + 1]? with
  | none =>
    -- Nothing comes after the stretch.
    have hdrop : stops.drop (k + 1) = [] :=
      List.drop_eq_nil_iff.mpr (List.getElem?_eq_none_iff.mp hend)
    rw [hdrop] at hturned
    simp only [Stop.path, List.filterMap_nil, wayLength, add_zero, decide_eq_true_eq] at hturned ⊢
    constructor <;> intro hgain <;> linarith
  | some next =>
    obtain ⟨c, hc⟩ := hnext next hend
    obtain ⟨hlt, hget⟩ := List.getElem?_eq_some_iff.mp hend
    have hpath : Stop.path (stops.drop (k + 1)) = c :: Stop.path (stops.drop (k + 2)) := by
      rw [List.drop_eq_getElem_cons hlt, hget, Stop.path, List.filterMap_cons_some hc]
      rfl
    rw [hpath] at hturned
    simp only [wayLength, hc, decide_eq_true_eq] at hturned ⊢
    constructor <;> intro hgain <;> linarith

theorem turnAround_shortens (hsym : ∀ p q, dist p q = dist q p)
    (h : paysToTurn dist previous k stops = true) :
    wayLength dist (some previous) (Stop.path (turnAround k stops)) + minGain <
      wayLength dist (some previous) (Stop.path stops) := by
  obtain ⟨a, b, ha, hb, hnext⟩ := known_of_paysToTurn h
  exact (paysToTurn_iff hsym ha hb hnext).mp h

end

/-! ## Passes -/

theorem improveHead_improved (hsym : ∀ p q, dist p q = dist q p) (previous : Point K) (n k : Nat)
    (stops : List (Stop K)) :
    Improved dist (some previous) stops (improveHead dist previous n k stops).1
      (improveHead dist previous n k stops).2 := by
  -- By induction on the ends that are still to be tried.
  induction n generalizing k stops with
  | zero => exact .refl stops
  | succ n ih =>
    rw [improveHead]
    split
    · next hpays =>
      have hturned : Improved dist (some previous) stops (turnAround k stops) true :=
        turnAround_shortens hsym hpays
      exact hturned.trans (ih (k + 1) (turnAround k stops))
    · exact ih (k + 1) stops

/-- Lengths are measured from the last stop that is known, if there is one. This is where one
comes from whenever stretches are tried. -/
theorem improveFrom_improved (hsym : ∀ p q, dist p q = dist q p) (n : Nat)
    {previous base : Option (Point K)} (hbase : ∀ p, previous = some p → base = some p)
    (stops : List (Stop K)) :
    Improved dist base stops (improveFrom dist n previous stops).1
      (improveFrom dist n previous stops).2 := by
  induction n generalizing previous base stops with
  | zero => exact .refl stops
  | succ n ih =>
    -- The stop in front stays, and the ways behind it are measured from it.
    have hrest : ∀ (stop : Stop K) (rest : List (Stop K)),
        Improved dist base (stop :: rest) (stop :: (improveFrom dist n stop.position rest).1)
          (improveFrom dist n stop.position rest).2 := by
      intro stop rest
      refine .cons (ih (fun p hp => ?_) rest)
      rw [hp, Option.some_or]
    cases previous with
    | none =>
      cases stops with
      | nil => exact .refl []
      | cons stop rest => exact hrest stop rest
    | some p =>
      have hturned := improveHead_improved hsym p (stops.length - 1) 1 stops
      rw [← hbase p rfl] at hturned
      rw [improveFrom]
      revert hturned
      rcases improveHead dist p (stops.length - 1) 1 stops with ⟨_ | ⟨stop, rest⟩, turned⟩
      · exact id
      · exact fun hturned => hturned.trans (hrest stop rest)

theorem improveOnce_improved (hsym : ∀ p q, dist p q = dist q p) (start : Point K)
    (fixedStart : Bool) (stops : List (Stop K)) :
    Improved dist (if fixedStart then none else some start) stops
      (improveOnce dist start fixedStart stops).1 (improveOnce dist start fixedStart stops).2 := by
  cases fixedStart with
  | false => exact improveFrom_improved hsym _ (fun p hp => hp) stops
  | true =>
    cases stops with
    | nil => exact .refl []
    | cons first rest =>
      refine .cons (improveFrom_improved hsym _ (fun p hp => ?_) rest)
      rw [hp, Option.some_or]

theorem improve_shortens (hsym : ∀ p q, dist p q = dist q p) (start : Point K)
    (fixedStart : Bool) (passes : Nat) (stops : List (Stop K)) :
    Shortened dist (if fixedStart then none else some start) stops
      (improve dist start fixedStart passes stops) := by
  suffices himproved : ∃ turned, Improved dist (if fixedStart then none else some start) stops
      (improve dist start fixedStart passes stops) turned by
    obtain ⟨turned, himproved⟩ := himproved
    exact himproved.shortened
  -- By induction on the passes; one that turns nothing is the last.
  induction passes generalizing stops with
  | zero => exact ⟨false, .refl stops⟩
  | succ passes ih =>
    have honce := improveOnce_improved hsym start fixedStart stops
    cases hturned : (improveOnce dist start fixedStart stops).2 with
    | false => exact ⟨false, improve_of_unturned hturned _⟩
    | true =>
      obtain ⟨turned, hrest⟩ := ih (improveOnce dist start fixedStart stops).1
      rw [improve_of_turned hturned]
      exact ⟨_, honce.trans hrest⟩

/-! ## Orders -/

/-- **Improving never lengthens a route.** With a symmetric distance and exact arithmetic the order
is left as it was, or the route gets shorter by more than the least gain. -/
theorem twoOpt_shortens (dist : Metric K) (hsym : ∀ p q, dist p q = dist q p) (start : Point K)
    (order : List String) (points : List (RoutePoint K)) (fixedStart : Bool) (passes : Nat) :
    twoOpt dist start order points fixedStart passes = order ∨
      routeDistance dist start (twoOpt dist start order points fixedStart passes) points
          fixedStart <
        routeDistance dist start order points fixedStart - 1 / 10 ^ 9 := by
  unfold twoOpt
  by_cases hshort : order.length < if fixedStart then 4 else 3
  · exact .inl (if_pos hshort)
  rw [if_neg hshort]
  let stops := order.map fun id => Stop.mk id (RoutePoint.locate points id)
  have hids : stops.map (·.id) = order := by
    rw [List.map_map]
    exact List.map_id order
  have hlocated : ∀ s ∈ stops, s.position = RoutePoint.locate points s.id := by
    intro s hs
    obtain ⟨id, -, rfl⟩ := List.mem_map.mp hs
    rfl
  -- The distance of a route is the way through the stops that it names.
  rcases improve_shortens hsym start fixedStart passes stops with hsame | hshorter
  · exact .inl ((congrArg (List.map (·.id)) hsame).trans hids)
  · refine .inr ?_
    have hperm := (improve_perm dist start fixedStart passes stops).1
    rw [path_eq_locate hlocated, hids,
      path_eq_locate fun s hs => hlocated s (hperm.mem_iff.mp hs), minGain_eq] at hshorter
    rw [routeDistance_eq, routeDistance_eq]
    linarith

/-- A stretch with a stop in it that is not known is turned around. -/
theorem twoOpt_shortens_detour :
    ∃ (dist : Metric ℝ) (points : List (RoutePoint ℝ)) (start : Point ℝ),
      (∀ p q, dist p q = dist q p) ∧
      twoOpt dist start ["far", "gone", "near"] points false 2 = ["near", "gone", "far"] ∧
      routeDistance dist start ["near", "gone", "far"] points false <
        routeDistance dist start ["far", "gone", "near"] points false - 1 / 10 ^ 9 := by
  let dist : Metric ℝ := fun p q => |p.x - q.x|
  let points : List (RoutePoint ℝ) := [⟨"far", ⟨10, 0⟩⟩, ⟨"near", ⟨1, 0⟩⟩]
  have hsym : ∀ p q, dist p q = dist q p := fun p q => abs_sub_comm p.x q.x
  -- The passes are computed over the reals, with the three stops looked up beforehand.
  have horder : twoOpt dist ⟨0, 0⟩ ["far", "gone", "near"] points false 2 =
      ["near", "gone", "far"] := by
    have hfar : RoutePoint.locate points "far" = some ⟨10, 0⟩ := rfl
    have hgone : RoutePoint.locate points "gone" = none := rfl
    have hnear : RoutePoint.locate points "near" = some ⟨1, 0⟩ := rfl
    norm_num [twoOpt, improve, improveOnce, improveFrom, improveHead, paysToTurn, turnAround, hfar,
      hgone, hnear, minGain_eq, dist]
  have hshorter := twoOpt_shortens dist hsym ⟨0, 0⟩ ["far", "gone", "near"] points false 2
  rw [horder] at hshorter
  exact ⟨dist, points, ⟨0, 0⟩, hsym, horder, hshorter.resolve_left (by decide)⟩

end MarkerAtlas
