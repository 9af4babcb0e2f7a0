import Mathlib.Data.List.Induction
import Mathlib.Data.List.Nodup
import Mathlib.Data.List.Perm.Basic
import MarkerAtlas.Route.Plan

/-!
# Planned routes are tours

A planned route visits every point exactly once, and begins with the start if the start is one of
the points. Nothing is assumed of the distance or of how its values compare: the greedy walk
takes its points one by one from a list of what is left, and turning a stretch around only moves
stops.
-/

namespace MarkerAtlas

variable {α : Type}

/-! ## Points by id -/

theorem locate_concat (points : List (RoutePoint α)) (p : RoutePoint α) (id : String) :
    RoutePoint.locate (points ++ [p]) id =
      if p.id = id then some p.position else RoutePoint.locate points id := by
  rw [RoutePoint.locate, List.foldl_append]
  rfl

theorem exists_locate {points : List (RoutePoint α)} {id : String}
    (h : id ∈ points.map (·.id)) : ∃ p, RoutePoint.locate points id = some p := by
  induction points using List.reverseRecOn with
  | nil => cases h
  | append_singleton points p ih =>
    rw [locate_concat]
    by_cases hid : p.id = id
    · exact ⟨p.position, if_pos hid⟩
    · rw [if_neg hid]
      rw [List.map_append, List.mem_append] at h
      exact ih (h.resolve_right fun hmem => hid (List.mem_singleton.mp hmem).symm)

/-- Points with different ids lie where they are found. -/
theorem locate_of_mem {points : List (RoutePoint α)} (hnd : (points.map (·.id)).Nodup)
    {p : RoutePoint α} (h : p ∈ points) : RoutePoint.locate points p.id = some p.position := by
  induction points using List.reverseRecOn with
  | nil => cases h
  | append_singleton points q ih =>
    rw [locate_concat]
    by_cases hid : q.id = p.id
    · have hq : q ∈ points ++ [q] := List.mem_append_right points (List.mem_singleton.mpr rfl)
      rw [if_pos hid, List.inj_on_of_nodup_map hnd hq h hid]
    · rw [if_neg hid]
      rw [List.map_append] at hnd
      refine ih (List.nodup_append.mp hnd).1 ((List.mem_append.mp h).resolve_right fun hmem => ?_)
      exact hid (congrArg RoutePoint.id (List.mem_singleton.mp hmem)).symm

/-- The ids of points with different ids lead to where the points lie. -/
theorem filterMap_locate {points : List (RoutePoint α)} (hnd : (points.map (·.id)).Nodup) :
    (points.map (·.id)).filterMap (RoutePoint.locate points) = points.map (·.position) := by
  rw [List.filterMap_map, ← List.filterMap_eq_map]
  exact List.filterMap_congr fun _ hp => locate_of_mem hnd hp

/-! ## Going to the nearest point -/

section greedy
variable [Scalar α]

theorem leastIndexFrom_lt (best : Nat) (least : α) (i : Nat) (ds : List α) (h : best < i) :
    leastIndexFrom best least i ds < i + ds.length := by
  induction ds generalizing best least i with
  | nil => simpa [leastIndexFrom] using h
  | cons d ds ih =>
    simp only [leastIndexFrom, List.length_cons]
    -- Whichever of the two is kept, its index has been passed already.
    split
    · have := ih i d (i + 1) (by omega)
      omega
    · have := ih best least (i + 1) (by omega)
      omega

/-- The index of a least value lies in the list, however the values compare. -/
theorem leastIndex_lt {ds : List α} (h : ds ≠ []) : leastIndex ds < ds.length := by
  cases ds with
  | nil => exact absurd rfl h
  | cons d ds =>
    have := leastIndexFrom_lt 0 d 1 ds (by omega)
    simp only [leastIndex, List.length_cons]
    omega

/-- The greedy walk takes every point that is left. -/
theorem visitNearest_perm (dist : Metric α) (here : Point α) (left : List (RoutePoint α)) :
    (visitNearest dist left.length here left).Perm left := by
  -- Induction on how many points are left: each step takes one out.
  induction hn : left.length generalizing here left with
  | zero =>
    have : left = [] := List.length_eq_zero_iff.mp hn
    simp [visitNearest, this]
  | succ n ih =>
    have hne : left.map (fun p => dist here p.position) ≠ [] := by
      intro h
      simp [List.map_eq_nil_iff.mp h] at hn
    have hlt : leastIndex (left.map fun p => dist here p.position) < left.length := by
      simpa using leastIndex_lt hne
    have hlen :
        (left.eraseIdx (leastIndex (left.map fun p => dist here p.position))).length = n := by
      rw [List.length_eraseIdx_of_lt hlt]
      omega
    simp only [visitNearest, List.getElem?_eq_getElem hlt]
    exact ((ih _ _ hlen).cons _).trans (List.getElem_cons_eraseIdx_perm hlt)

/-- What the greedy walk gives: every id once, and the start in front exactly if it is one of
the points. -/
theorem nearestNeighbor_spec (dist : Metric α) (startId : Option String) (start : Point α)
    (points : List (RoutePoint α)) :
    let v := nearestNeighbor dist startId start points
    v.order.Perm (points.map (·.id)) ∧
      (v.fixedStart = true ↔ ∃ id, startId = some id ∧ id ∈ points.map (·.id)) ∧
      (v.fixedStart = true → v.order.head? = startId) := by
  simp only [nearestNeighbor]
  cases h : startId.bind fun id => points.findIdx? (·.id == id) with
  | none =>
    -- There is no start, or it is none of the points: all points are left to visit.
    refine ⟨(visitNearest_perm dist start points).map _, ?_, by simp⟩
    simp only [Bool.false_eq_true, false_iff]
    rintro ⟨id, rfl, hid⟩
    obtain ⟨p, hp, rfl⟩ := List.mem_map.mp hid
    simpa using List.findIdx?_eq_none_iff.mp h p hp
  | some i =>
    -- The start is the point at `i`. It is visited first and taken out of what is left, where
    -- another point may still have its id.
    obtain ⟨id, rfl, hi⟩ := Option.bind_eq_some_iff.mp h
    obtain ⟨hlt, hid, -⟩ := List.findIdx?_eq_some_iff_getElem.mp hi
    have hid : points[i].id = id := by simpa using hid
    simp only [List.getElem?_eq_getElem hlt]
    refine ⟨?_, ?_, fun _ => by simp [hid]⟩
    · have hrest := visitNearest_perm dist points[i].position (points.eraseIdx i)
      simpa using ((hrest.cons points[i]).trans (List.getElem_cons_eraseIdx_perm hlt)).map (·.id)
    · simp only [true_iff]
      exact ⟨id, rfl, List.mem_map.mpr ⟨points[i], List.getElem_mem hlt, hid⟩⟩

end greedy

/-! ## Turning stretches around -/

theorem turnAround_perm (k : Nat) (stops : List (Stop α)) : (turnAround k stops).Perm stops := by
  have h := (List.reverse_perm (stops.take (k + 1))).append_right (stops.drop (k + 1))
  rwa [List.take_append_drop] at h

section improve
variable [Scalar α]

theorem improveHead_perm (dist : Metric α) (previous : Point α) (n k : Nat)
    (stops : List (Stop α)) : (improveHead dist previous n k stops).1.Perm stops := by
  induction n generalizing k stops with
  | zero => simp [improveHead]
  | succ n ih =>
    simp only [improveHead]
    split
    · exact (ih (k + 1) (turnAround k stops)).trans (turnAround_perm k stops)
    · exact ih (k + 1) stops

theorem improveFrom_perm (dist : Metric α) (n : Nat) (previous : Option (Point α))
    (stops : List (Stop α)) : (improveFrom dist n previous stops).1.Perm stops := by
  induction n generalizing previous stops with
  | zero => simp [improveFrom]
  | succ n ih =>
    -- Once the stretches that begin here are turned, the first stop stays and the rest goes on.
    cases previous with
    | none =>
      cases stops with
      | nil => exact .refl _
      | cons stop rest => exact (ih stop.position rest).cons stop
    | some p =>
      have hturned := improveHead_perm dist p (stops.length - 1) 1 stops
      rw [improveFrom]
      revert hturned
      cases improveHead dist p (stops.length - 1) 1 stops with
      | mk turned _ =>
        intro hturned
        cases turned with
        | nil => exact hturned
        | cons stop rest => exact ((ih stop.position rest).cons stop).trans hturned

/-- A pass moves stops, and not the first one of a route whose start is fixed. -/
theorem improveOnce_perm (dist : Metric α) (start : Point α) (fixedStart : Bool)
    (stops : List (Stop α)) :
    (improveOnce dist start fixedStart stops).1.Perm stops ∧
      (fixedStart = true → (improveOnce dist start fixedStart stops).1.head? = stops.head?) := by
  cases fixedStart with
  | false => exact ⟨improveFrom_perm dist _ _ stops, by simp⟩
  | true =>
    cases stops with
    | nil => simp [improveOnce]
    | cons first rest => exact ⟨(improveFrom_perm dist _ _ rest).cons first, fun _ => rfl⟩

theorem improve_perm (dist : Metric α) (start : Point α) (fixedStart : Bool) (passes : Nat)
    (stops : List (Stop α)) :
    (improve dist start fixedStart passes stops).Perm stops ∧
      (fixedStart = true → (improve dist start fixedStart passes stops).head? = stops.head?) := by
  induction passes generalizing stops with
  | zero => simp [improve]
  | succ passes ih =>
    obtain ⟨hperm, hhead⟩ := improveOnce_perm dist start fixedStart stops
    simp only [improve]
    split
    · obtain ⟨hperm', hhead'⟩ := ih (improveOnce dist start fixedStart stops).1
      exact ⟨hperm'.trans hperm, fun h => (hhead' h).trans (hhead h)⟩
    · exact ⟨hperm, hhead⟩

/-- Improving an order keeps its ids, and the first one if the start is fixed. -/
theorem twoOpt_perm (dist : Metric α) (start : Point α) (order : List String)
    (points : List (RoutePoint α)) (fixedStart : Bool) (passes : Nat) :
    (twoOpt dist start order points fixedStart passes).Perm order ∧
      (fixedStart = true →
        (twoOpt dist start order points fixedStart passes).head? = order.head?) := by
  unfold twoOpt
  by_cases hshort : order.length < if fixedStart then 4 else 3
  · rw [if_pos hshort]
    exact ⟨List.Perm.refl order, fun _ => rfl⟩
  · rw [if_neg hshort]
    have hids :
        (order.map fun id => Stop.mk id (RoutePoint.locate points id)).map (·.id) = order := by
      rw [List.map_map]
      exact List.map_id order
    obtain ⟨hperm, hhead⟩ := improve_perm dist start fixedStart passes
      (order.map fun id => Stop.mk id (RoutePoint.locate points id))
    refine ⟨(hperm.map (·.id)).trans (.of_eq hids), fun h => ?_⟩
    rw [List.head?_map, hhead h, ← List.head?_map, hids]

end improve

/-! ## Planning -/

/-- The route is a tour of the points: it visits each once, and says truly whether it begins with
the start. -/
structure Route.IsTour (r : Route α) (startId : Option String) (start : Point α)
    (points : List (RoutePoint α)) : Prop where
  start_eq : r.start = start
  startId_eq : r.startId = startId
  perm : r.order.Perm (points.map (·.id))
  fixedStart_iff : r.fixedStart = true ↔ ∃ id, startId = some id ∧ id ∈ points.map (·.id)
  head?_eq : r.fixedStart = true → r.order.head? = startId

section plan
variable [Scalar α]

theorem RouteSettings.plan_of_lt (s : RouteSettings) (dist : Metric α) (startId : Option String)
    (start : Point α) (points : List (RoutePoint α)) (h : s.maxCandidates < points.length) :
    s.plan dist startId start points = .error ⟨points.length, s.maxCandidates⟩ := by
  simp [plan, h]

theorem RouteSettings.plan_of_le (s : RouteSettings) (dist : Metric α) (startId : Option String)
    (start : Point α) (points : List (RoutePoint α)) (h : points.length ≤ s.maxCandidates) :
    ∃ r, s.plan dist startId start points = .ok r ∧ r.IsTour startId start points := by
  obtain ⟨hvisit, hfixed, hhead⟩ := nearestNeighbor_spec dist startId start points
  obtain ⟨hperm, hkeep⟩ := twoOpt_perm dist start (nearestNeighbor dist startId start points).order
    points (nearestNeighbor dist startId start points).fixedStart s.passes
  simp only [plan, gt_iff_lt, Nat.not_lt.mpr h, if_false]
  exact ⟨_, rfl, rfl, rfl, hperm.trans hvisit, hfixed, fun hf => (hkeep hf).trans (hhead hf)⟩

/-- Where there is nothing to visit, the route has no steps, and no length. -/
theorem RouteSettings.plan_nil (s : RouteSettings) (dist : Metric α) (startId : Option String)
    (start : Point α) : s.plan dist startId start [] = .ok ⟨start, startId, [], false, 0⟩ := by
  cases startId <;> rfl

/-- The length that is planned is that of the route. -/
theorem RouteSettings.distance_of_plan {s : RouteSettings} {dist : Metric α}
    {startId : Option String} {start : Point α} {points : List (RoutePoint α)} {r : Route α}
    (h : s.plan dist startId start points = .ok r) :
    r.distance = routeDistance dist r.start r.order points r.fixedStart := by
  unfold plan at h
  split at h
  · cases h
  · cases h
    rfl

/-- Every route that is planned is a tour. -/
theorem RouteSettings.isTour_of_plan {s : RouteSettings} {dist : Metric α}
    {startId : Option String} {start : Point α} {points : List (RoutePoint α)} {r : Route α}
    (h : s.plan dist startId start points = .ok r) : r.IsTour startId start points := by
  rcases Nat.lt_or_ge s.maxCandidates points.length with hlt | hle
  · rw [s.plan_of_lt dist startId start points hlt] at h
    cases h
  · obtain ⟨r', hr', htour⟩ := s.plan_of_le dist startId start points hle
    rw [hr'] at h
    exact Except.ok.inj h ▸ htour

/-- **Planning is complete.** Too many points are refused, with their number and the bound, and
in no other case is there an error. Otherwise the route visits the points exactly once each; its
start is fixed exactly if it is one of the points, and then the route begins with it. -/
theorem RouteSettings.plan_complete (s : RouteSettings) (dist : Metric α)
    (startId : Option String) (start : Point α) (points : List (RoutePoint α)) :
    (∀ fault, s.plan dist startId start points = .error fault ↔
        s.maxCandidates < points.length ∧ fault = ⟨points.length, s.maxCandidates⟩) ∧
      (points.length ≤ s.maxCandidates → ∃ r, s.plan dist startId start points = .ok r ∧
        r.order.Perm (points.map (·.id)) ∧
        (r.fixedStart = true ↔ ∃ p ∈ points, startId = some p.id) ∧
        (r.fixedStart = true → r.order.head? = startId)) := by
  constructor
  · intro fault
    rcases Nat.lt_or_ge s.maxCandidates points.length with h | h
    · rw [s.plan_of_lt dist startId start points h]
      simp [h, eq_comm]
    · obtain ⟨r, hr, -⟩ := s.plan_of_le dist startId start points h
      simp [hr, Nat.not_lt.mpr h]
  · intro h
    obtain ⟨r, hr, htour⟩ := s.plan_of_le dist startId start points h
    refine ⟨r, hr, htour.perm, htour.fixedStart_iff.trans ?_, htour.head?_eq⟩
    constructor
    · rintro ⟨id, rfl, hid⟩
      obtain ⟨p, hp, rfl⟩ := List.mem_map.mp hid
      exact ⟨p, hp, rfl⟩
    · rintro ⟨p, hp, rfl⟩
      exact ⟨p.id, rfl, List.mem_map_of_mem hp⟩

end plan

end MarkerAtlas
