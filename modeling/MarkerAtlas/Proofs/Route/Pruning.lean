import MarkerAtlas.Proofs.Route.Walk
import MarkerAtlas.Scalar.Double

/-!
# The current step of a pruned route

Pruning takes steps out of a route and leaves the others in their order, but the walk keeps the
index of its current step. Each step that goes before the current one therefore moves the walk
ahead by one, past steps that were not visited, until it is at the last step.
-/

namespace MarkerAtlas.Walk

section
variable {α : Type} [Scalar α] (w : Walk α) (now : List (Marker α))

/-- The steps before the current one that stay when the markers change. -/
def keptBefore : List String := (w.order.take w.current).filter (knows now)

/-- The steps behind the current one that stay when the markers change. -/
def keptBehind : List String := (w.order.drop (w.current + 1)).filter (knows now)

/-- How many steps before the current one go when the markers change. -/
def droppedBefore : Nat := (w.order.take w.current).countP (!knows now ·)

theorem order_retainKnown : (w.retainKnown now).order = w.order.filter (knows now) := by
  obtain ⟨route, current, notice⟩ := w
  cases route <;> rfl

theorem current_retainKnown (h : w.order ≠ []) :
    (w.retainKnown now).current = min w.current ((w.retainKnown now).order.length - 1) := by
  obtain ⟨route, current, notice⟩ := w
  cases route with
  | none => exact absurd rfl h
  | some r => rfl

theorem length_keptBefore_add (h : w.current ≤ w.order.length) :
    (w.keptBefore now).length + w.droppedBefore now = w.current := by
  -- A step before the current one stays or is dropped.
  have hsplit := List.length_eq_countP_add_countP (knows now) (l := w.order.take w.current)
  rw [List.length_take_of_le h] at hsplit
  rw [keptBefore, droppedBefore, ← List.countP_eq_length_filter]
  simpa using hsplit.symm

variable {w now} {id : String}

/-- The current step stands between the steps that stay before and behind it. -/
theorem order_retainKnown_of_known (hcurrent : w.currentId = some id)
    (hknown : knows now id = true) :
    (w.retainKnown now).order = w.keptBefore now ++ id :: w.keptBehind now := by
  obtain ⟨hlt, hid⟩ := List.getElem?_eq_some_iff.mp hcurrent
  have hsplit : w.order = w.order.take w.current ++ id :: w.order.drop (w.current + 1) := by
    rw [← hid, ← List.drop_eq_getElem_cons hlt, List.take_append_drop]
  rw [order_retainKnown, hsplit, List.filter_append, List.filter_cons_of_pos hknown]
  rfl

/-- The walk moves ahead by as many steps as went before the current one, if there are so many. -/
theorem current_retainKnown_of_known (hcurrent : w.currentId = some id)
    (hknown : knows now id = true) : (w.retainKnown now).current =
      (w.keptBefore now).length + min (w.droppedBefore now) (w.keptBehind now).length := by
  obtain ⟨hlt, -⟩ := List.getElem?_eq_some_iff.mp hcurrent
  have hadd := w.length_keptBefore_add now (Nat.le_of_lt hlt)
  have hne : w.order ≠ [] := List.length_pos_iff.mp (Nat.zero_lt_of_lt hlt)
  rw [current_retainKnown w now hne, order_retainKnown_of_known hcurrent hknown,
    List.length_append, List.length_cons]
  omega

/-- **A refresh may move the walk to another step.** Let the marker of the current step still have
a position when the markers change. The steps that stay are in the same order as before, and the
walk is then at the one that comes as many places behind the step it was at as steps were dropped
before it, or at the last one if there are not so many. So it is still at the same step if none was
dropped before it or none stays behind it and, where no id occurs twice in the route, only then. -/
theorem current_step_after_pruning (hcurrent : w.currentId = some id)
    (hknown : knows now id = true) :
    (w.retainKnown now).order = w.keptBefore now ++ id :: w.keptBehind now ∧
    (w.retainKnown now).currentId =
      (id :: w.keptBehind now)[min (w.droppedBefore now) (w.keptBehind now).length]? ∧
    (w.droppedBefore now = 0 ∨ w.keptBehind now = [] →
      (w.retainKnown now).currentId = some id) ∧
    (w.order.Nodup → (w.retainKnown now).currentId = some id →
      w.droppedBefore now = 0 ∨ w.keptBehind now = []) := by
  have horder := order_retainKnown_of_known hcurrent hknown
  have hstep : (w.retainKnown now).currentId =
      (id :: w.keptBehind now)[min (w.droppedBefore now) (w.keptBehind now).length]? := by
    rw [currentId, horder, current_retainKnown_of_known hcurrent hknown,
      List.getElem?_append_right (Nat.le_add_right _ _), Nat.add_sub_cancel_left]
  refine ⟨horder, hstep, fun hstays => ?_, fun hnodup hsame => ?_⟩
  · rw [hstep]
    -- With none dropped, or none left behind it, the walk has nowhere to go.
    rcases hstays with hnone | hlast
    · rw [hnone, Nat.zero_min, List.getElem?_cons_zero]
    · rw [hlast, List.length_nil, Nat.min_zero, List.getElem?_cons_zero]
  · rw [hstep] at hsame
    -- Behind the current step its id does not occur again.
    have hnodup : (id :: w.keptBehind now).Nodup := by
      have hkept : (w.keptBefore now ++ id :: w.keptBehind now).Nodup := by
        rw [← horder, order_retainKnown]
        exact hnodup.filter _
      exact (List.nodup_append.mp hkept).2.1
    have hzero : min (w.droppedBefore now) (w.keptBehind now).length = 0 := by
      refine (List.getElem?_inj ?_ hnodup).mp (hsame.trans (List.getElem?_cons_zero).symm)
      rw [List.length_cons]
      omega
    rw [← List.length_eq_zero_iff]
    omega

end

/-- A trace at a place. -/
def traceAt (id : String) (x y : Float) : Marker Float :=
  ⟨id, .trace, none, "Poeta", none, id, none, some x, some y, none, false⟩

/-- The walk is at the second of three traces when the last one goes, and stays there. -/
theorem second_step_kept :
    ∃ w : Walk Float, w.order = ["a", "b", "c"] ∧ w.currentId = some "b" ∧
      (w.retainKnown [traceAt "a" 0 0, traceAt "b" 1 0]).currentId = some "b" := by
  let w : Walk Float := ⟨some ⟨⟨0, 0⟩, some "a", ["a", "b", "c"], true, 2⟩, 1, none⟩
  have hknown : knows [traceAt "a" 0 0, traceAt "b" 1 0] "b" = true := by decide +kernel
  obtain ⟨-, -, hstays, -⟩ := current_step_after_pruning (w := w) rfl hknown
  exact ⟨w, rfl, rfl, hstays (.inl (by decide +kernel))⟩

/-- A route is made through three traces, so far apart that no distance between them is finite, and
the second step is gone to. When the first trace goes, the third one is the current step, although
the second one is still there. -/
theorem second_step_skipped :
    let far : Float := 1.7e308
    let traces := [traceAt "a" (-far) 0, traceAt "b" far (-far), traceAt "c" far far]
    ∃ (w : Walk Float) (v : Viewport Float),
      empty.generate .standard traces.head? traces (Viewport.new .standard) = (w, v, .ok ()) ∧
      let atSecond := (w.goTo 1 traces v).1
      atSecond.currentId = some "b" ∧ knows traces.tail "b" = true ∧
        (atSecond.retainKnown traces.tail).currentId = some "c" := by
  intro far traces
  let planned := empty.generate .standard traces.head? traces (Viewport.new .standard)
  have hplanned : planned.2.2 = .ok () := by decide +kernel
  refine ⟨planned.1, planned.2.1, ?_, by decide +kernel, by decide +kernel, by decide +kernel⟩
  rw [← hplanned]

end MarkerAtlas.Walk
