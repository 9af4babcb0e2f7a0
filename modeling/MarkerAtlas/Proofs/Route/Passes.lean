import MarkerAtlas.Proofs.Route.Tour

/-!
# Passes over a route

A pass in which no stretch was turned leaves the route as it is, and it has tried every stretch and
found that none pays. From then on all further passes do the same, so that it does not matter
whether they are made: improving a route with some passes and then with some more is improving it
with all of them. Nothing is assumed of distances here.
-/

namespace MarkerAtlas

variable {α : Type}

/-- Where one comes from at a place in the route. -/
def cameFrom (previous : Option (Point α)) (stops : List (Stop α)) : Nat → Option (Point α)
  | 0 => previous
  | i + 1 => stops[i]?.bind (·.position)

@[simp] theorem cameFrom_zero (previous : Option (Point α)) (stops : List (Stop α)) :
    cameFrom previous stops 0 = previous := rfl

@[simp] theorem cameFrom_cons (previous : Option (Point α)) (stop : Stop α) (rest : List (Stop α))
    (i : Nat) : cameFrom previous (stop :: rest) (i + 1) = cameFrom stop.position rest i := by
  cases i <;> rfl

/-- The stops of an order, where the points lie. -/
def Stop.ofOrder (points : List (RoutePoint α)) (order : List String) : List (Stop α) :=
  order.map fun id => ⟨id, RoutePoint.locate points id⟩

theorem Stop.map_id_ofOrder (points : List (RoutePoint α)) (order : List String) :
    (ofOrder points order).map (·.id) = order := by
  rw [ofOrder, List.map_map]
  exact List.map_id order

/-- Stops that come from an order keep to it when they are moved. -/
theorem Stop.ofOrder_map_id {points : List (RoutePoint α)} {order : List String}
    {stops : List (Stop α)} (h : stops.Perm (ofOrder points order)) :
    ofOrder points (stops.map (·.id)) = stops := by
  rw [ofOrder, List.map_map]
  refine (List.map_congr_left fun s hs => ?_).trans (List.map_id stops)
  obtain ⟨id, -, rfl⟩ := List.mem_map.mp (h.mem_iff.mp hs)
  rfl

section
variable [Scalar α] {dist : Metric α}

/-! ## Passes that turn nothing -/

/-- Nothing is turned at a place only if no stretch that is tried there pays. -/
theorem improveHead_of_unturned {previous : Point α} {n k : Nat} {stops : List (Stop α)}
    (h : (improveHead dist previous n k stops).2 = false) :
    (improveHead dist previous n k stops).1 = stops ∧
      ∀ j, k ≤ j → j < k + n → paysToTurn dist previous j stops = false := by
  induction n generalizing k with
  | zero => exact ⟨rfl, fun j hkj hj => absurd hj (by omega)⟩
  | succ n ih =>
    rw [improveHead] at h ⊢
    by_cases hpays : paysToTurn dist previous k stops = true
    · -- A stretch that pays would have been turned.
      rw [if_pos hpays] at h
      cases h
    · rw [if_neg hpays] at h ⊢
      obtain ⟨hsame, htried⟩ := ih h
      refine ⟨hsame, fun j hkj hj => ?_⟩
      rcases Nat.eq_or_lt_of_le hkj with rfl | hlt
      · exact Bool.eq_false_iff.mpr hpays
      · exact htried j hlt (by omega)

/-- Where it is not known where one comes from, the pass goes on behind the first stop. -/
theorem improveFrom_none (n : Nat) (stop : Stop α) (rest : List (Stop α)) :
    improveFrom dist (n + 1) none (stop :: rest) =
      (stop :: (improveFrom dist n stop.position rest).1,
        (improveFrom dist n stop.position rest).2) := rfl

/-- If nothing is turned at the first place, the pass goes on behind it. -/
theorem improveFrom_of_unturned_head {n : Nat} {p : Point α} {stop : Stop α} {rest : List (Stop α)}
    (h : (improveFrom dist (n + 1) (some p) (stop :: rest)).2 = false) :
    (improveHead dist p rest.length 1 (stop :: rest)).2 = false ∧
      improveFrom dist (n + 1) (some p) (stop :: rest) =
        (stop :: (improveFrom dist n stop.position rest).1,
          (improveFrom dist n stop.position rest).2) := by
  have hlength : (stop :: rest).length - 1 = rest.length := rfl
  rw [improveFrom, hlength] at h ⊢
  have hhead : (improveHead dist p rest.length 1 (stop :: rest)).2 = false := by
    revert h
    rcases improveHead dist p rest.length 1 (stop :: rest) with ⟨_ | ⟨s, ss⟩, turned⟩
    · exact id
    · exact fun h => (Bool.or_eq_false_iff.mp h).1
  obtain ⟨hsame, -⟩ := improveHead_of_unturned hhead
  have heq : improveHead dist p rest.length 1 (stop :: rest) = (stop :: rest, false) :=
    Prod.ext hsame hhead
  rw [heq]
  exact ⟨rfl, rfl⟩

/-- Nothing is turned from a place on only if no stretch pays that begins at one of the `n` places
from there, provided that it is known where one comes from. -/
theorem improveFrom_of_unturned {n : Nat} {previous : Option (Point α)} {stops : List (Stop α)}
    (h : (improveFrom dist n previous stops).2 = false) :
    (improveFrom dist n previous stops).1 = stops ∧
      ∀ i j p, i < n → 1 ≤ j → i + j < stops.length → cameFrom previous stops i = some p →
        paysToTurn dist p j (stops.drop i) = false := by
  induction n generalizing previous stops with
  | zero => exact ⟨rfl, fun i j p hi => absurd hi (Nat.not_lt_zero i)⟩
  | succ n ih =>
    cases stops with
    | nil =>
      refine ⟨?_, fun i j p _ _ hlt => absurd hlt (by simp)⟩
      cases previous <;> rfl
    | cons stop rest =>
      -- Both ways to the first stop lead on to the rest.
      have hrest : (improveFrom dist n stop.position rest).2 = false ∧
          (improveFrom dist (n + 1) previous (stop :: rest)).1 =
            stop :: (improveFrom dist n stop.position rest).1 ∧
          ∀ p, previous = some p →
            (improveHead dist p rest.length 1 (stop :: rest)).2 = false := by
        cases previous with
        | none =>
          rw [improveFrom_none] at h ⊢
          exact ⟨h, rfl, fun p hp => by cases hp⟩
        | some p =>
          obtain ⟨hhead, heq⟩ := improveFrom_of_unturned_head h
          rw [heq] at h ⊢
          refine ⟨h, rfl, fun q hq => ?_⟩
          obtain rfl := Option.some.inj hq
          exact hhead
      obtain ⟨hunturned, hsame, hhead⟩ := hrest
      obtain ⟨hsame', htried⟩ := ih hunturned
      refine ⟨by rw [hsame, hsame'], fun i j p hi hj hlt hp => ?_⟩
      rw [List.length_cons] at hlt
      cases i with
      | zero =>
        rw [cameFrom_zero] at hp
        exact (improveHead_of_unturned (hhead p hp)).2 j hj (by omega)
      | succ i =>
        rw [cameFrom_cons] at hp
        exact htried i j p (by omega) hj (by omega) hp

/-- No stretch pays: it is tried everywhere but before a fixed start. -/
def NonePays (dist : Metric α) (start : Point α) (fixedStart : Bool) (stops : List (Stop α)) :
    Prop :=
  ∀ i j p, (if fixedStart then 1 else 0) ≤ i → 1 ≤ j → i + j < stops.length →
    cameFrom (some start) stops i = some p → paysToTurn dist p j (stops.drop i) = false

/-- A pass that turned nothing left the stops as they are, and no stretch pays. -/
theorem improveOnce_of_unturned {start : Point α} {fixedStart : Bool} {stops : List (Stop α)}
    (h : (improveOnce dist start fixedStart stops).2 = false) :
    (improveOnce dist start fixedStart stops).1 = stops ∧
      NonePays dist start fixedStart stops := by
  cases fixedStart with
  | false =>
    obtain ⟨hsame, htried⟩ := improveFrom_of_unturned (n := stops.length - 1) h
    exact ⟨hsame, fun i j p _ hj hlt => htried i j p (by omega) hj hlt⟩
  | true =>
    cases stops with
    | nil => exact ⟨rfl, fun i j p _ _ hlt => absurd hlt (by simp)⟩
    | cons first rest =>
      obtain ⟨hsame, htried⟩ := improveFrom_of_unturned (n := rest.length - 1) h
      refine ⟨congrArg (first :: ·) hsame, fun i j p hi hj hlt hp => ?_⟩
      rw [List.length_cons] at hlt
      obtain ⟨i, rfl⟩ : ∃ k, i = k + 1 := ⟨i - 1, by rw [if_pos rfl] at hi; omega⟩
      rw [cameFrom_cons] at hp
      exact htried i j p (by omega) hj (by omega) hp

/-! ## Further passes -/

/-- After a pass that turned nothing no pass turns anything. -/
theorem improve_of_unturned {start : Point α} {fixedStart : Bool} {stops : List (Stop α)}
    (h : (improveOnce dist start fixedStart stops).2 = false) (passes : Nat) :
    improve dist start fixedStart passes stops = stops := by
  cases passes with
  | zero => rfl
  | succ passes =>
    simp only [improve, h, Bool.false_eq_true, if_false]
    exact (improveOnce_of_unturned h).1

theorem improve_of_turned {start : Point α} {fixedStart : Bool} {stops : List (Stop α)}
    (h : (improveOnce dist start fixedStart stops).2 = true) (passes : Nat) :
    improve dist start fixedStart (passes + 1) stops =
      improve dist start fixedStart passes (improveOnce dist start fixedStart stops).1 := by
  simp only [improve, h, if_true]

theorem improve_add (start : Point α) (fixedStart : Bool) (p q : Nat) (stops : List (Stop α)) :
    improve dist start fixedStart (p + q) stops =
      improve dist start fixedStart q (improve dist start fixedStart p stops) := by
  induction p generalizing stops with
  | zero => rw [Nat.zero_add, improve]
  | succ p ih =>
    cases hturned : (improveOnce dist start fixedStart stops).2 with
    | false =>
      -- The first pass has found nothing, and none of the others will.
      rw [improve_of_unturned hturned, improve_of_unturned hturned, improve_of_unturned hturned]
    | true =>
      rw [Nat.succ_add, improve_of_turned hturned, improve_of_turned hturned, ih]

/-! ## Orders -/

theorem twoOpt_of_short {order : List String} {fixedStart : Bool}
    (h : order.length < if fixedStart then 4 else 3) (start : Point α)
    (points : List (RoutePoint α)) (passes : Nat) :
    twoOpt dist start order points fixedStart passes = order := if_pos h

theorem twoOpt_of_long {order : List String} {fixedStart : Bool}
    (h : ¬ order.length < if fixedStart then 4 else 3) (start : Point α)
    (points : List (RoutePoint α)) (passes : Nat) :
    twoOpt dist start order points fixedStart passes =
      (improve dist start fixedStart passes (Stop.ofOrder points order)).map (·.id) := if_neg h

/-- Some passes and then some more are all of them. -/
theorem twoOpt_add (dist : Metric α) (start : Point α) (order : List String)
    (points : List (RoutePoint α)) (fixedStart : Bool) (p q : Nat) :
    twoOpt dist start order points fixedStart (p + q) =
      twoOpt dist start (twoOpt dist start order points fixedStart p) points fixedStart q := by
  by_cases hshort : order.length < if fixedStart then 4 else 3
  · rw [twoOpt_of_short hshort, twoOpt_of_short hshort, twoOpt_of_short hshort]
  · -- An order that is long enough stays so, and its stops are moved about only.
    have hlength := (twoOpt_perm dist start order points fixedStart p).1.length_eq
    have hstops := (improve_perm dist start fixedStart p (Stop.ofOrder points order)).1
    rw [twoOpt_of_long hshort, twoOpt_of_long (hlength ▸ hshort), twoOpt_of_long hshort,
      Stop.ofOrder_map_id hstops, improve_add]

end

end MarkerAtlas
