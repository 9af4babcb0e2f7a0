import Mathlib
import MarkerAtlas.Proofs.Scalar.Exact
import MarkerAtlas.Proofs.Session.Course

/-!
# Every step is shown

There are four ways to go along a route: to the next step, to the one before, to a step by its
index, and back to the current one. Each of them says whether the route has the step it is to go
to. If so, the step becomes the current one and its marker moves to the middle of the screen, and
it never happens that the step is taken and its marker not found: a run keeps the route among the
markers that are listed and lie on the map.
-/

namespace MarkerAtlas

/-! ## The current step -/

theorem Viewport.worldToScreen_centerOn {K : Type} [ExactField K] (v : Viewport K) (p : Point K) :
    (v.centerOn p).worldToScreen p = v.size.center := by
  show v.size.center - p.scale v.scale + p.scale v.scale = v.size.center
  exact congrArg₂ Point.mk (sub_add_cancel _ _) (sub_add_cancel _ _)

section
variable {α : Type} [Scalar α]

/-- Where no id occurs twice, a marker is found where it lies. -/
theorem Walk.positionOf_eq {markers : List (Marker α)} (hnodup : (markers.map (·.id)).Nodup)
    {m : Marker α} (hm : m ∈ markers) : positionOf markers m.id = m.position := by
  rw [positionOf, Marker.find?_eq_some hnodup hm, Option.bind_some]

/-- On a sound walk that is not over, the current step has a marker to move to the middle. -/
theorem Walk.Sound.recenter_eq {w : Walk α} {markers : List (Marker α)} (h : w.Sound markers)
    (hnodup : (markers.map (·.id)).Nodup) (hlt : w.current < w.order.length) (v : Viewport α) :
    ∃ m ∈ markers, ∃ p, w.currentId = some m.id ∧ m.position = some p ∧
      w.recenter markers v = (v.centerOn p, true) := by
  have hcurrent : w.currentId = some w.order[w.current] := List.getElem?_eq_getElem hlt
  -- What the route names is listed, and lies on the map.
  obtain ⟨m, hm, hid, hplaced⟩ := Walk.knows_iff.mp (h.known _ (List.getElem_mem hlt))
  obtain ⟨p, hp⟩ := Option.isSome_iff_exists.mp hplaced
  rw [← hid] at hcurrent
  refine ⟨m, hm, p, hcurrent, hp, ?_⟩
  rw [Walk.recenter, hcurrent, Option.bind_some, positionOf_eq hnodup hm, hp]

theorem Walk.recenter_of_le {w : Walk α} (hle : w.order.length ≤ w.current)
    (markers : List (Marker α)) (v : Viewport α) : w.recenter markers v = (v, false) := by
  rw [Walk.recenter, Walk.currentId, List.getElem?_eq_none hle, Option.bind_none]

end

namespace Session

/-! ## Moves -/

/-- A way to go along a route. -/
inductive Move where
  | next
  | prev
  | goTo (index : Nat)
  | recenter

/-- The index of the step to go to; before the first step there is none. -/
def Move.target (current : Nat) : Move → Int
  | .next => current + 1
  | .prev => current - 1
  | .goTo index => index
  | .recenter => current

section
variable {α : Type} {s : Session α}

/-- Does the route have a step with this index? -/
def HasStep (s : Session α) (index : Int) : Prop := 0 ≤ index ∧ index < s.walk.order.length

instance (s : Session α) (index : Int) : Decidable (s.HasStep index) :=
  inferInstanceAs (Decidable (_ ∧ _))

theorem hasStep_natCast {index : Nat} : s.HasStep index ↔ index < s.walk.order.length := by
  simp [HasStep]

variable [Scalar α]

/-- Goes along the route. Says whether it has the step to go to. -/
def move (s : Session α) : Move → Session α × Bool
  | .next => s.next
  | .prev => s.prev
  | .goTo index => s.goTo index
  | .recenter => s.recenter

/-- The session with another current step, whose marker is moved to the middle of the screen. -/
def atStep (s : Session α) (index : Nat) : Session α :=
  { s with
    walk := { s.walk with current := index }
    viewport := (({ s.walk with current := index } : Walk α).recenter s.markers s.viewport).1 }

theorem goTo_eq (s : Session α) (index : Nat) :
    s.goTo index = if s.HasStep index then (s.atStep index, true) else (s, false) := by
  simp only [hasStep_natCast, goTo, Walk.goTo]
  split <;> rfl

/-- All four ways go to the step with the index, if the route has it, and nowhere otherwise. -/
theorem OnCourse.move_eq (h : s.OnCourse) (hnodup : (s.markers.map (·.id)).Nodup) (move : Move) :
    s.move move =
      if s.HasStep (move.target s.walk.current) then
        (s.atStep (move.target s.walk.current).toNat, true)
      else (s, false) := by
  cases move with
  | next => exact s.goTo_eq (s.walk.current + 1)
  | prev =>
    show s.prev = _
    unfold prev Walk.prev
    -- No index comes before that of the first step, and going back from there is refused.
    by_cases hzero : s.walk.current = 0
    · rw [if_pos hzero, if_neg (by simp [HasStep, Move.target, hzero])]
    · rw [if_neg hzero]
      have htarget : (s.walk.current : Int) - 1 = ((s.walk.current - 1 : Nat) : Int) := by omega
      simp only [Move.target, htarget]
      exact s.goTo_eq (s.walk.current - 1)
  | goTo index => exact s.goTo_eq index
  | recenter =>
    show s.recenter = _
    simp only [recenter, Move.target, hasStep_natCast, Int.toNat_natCast]
    split
    · next hlt =>
      -- Moving to the middle says by itself whether there is a step; on a sound walk it says so.
      obtain ⟨m, -, p, -, -, hrecenter⟩ := h.recenter_eq hnodup hlt s.viewport
      simp only [atStep, hrecenter]
    · next hle => rw [Walk.recenter_of_le (Nat.le_of_not_lt hle)]

end

/-! ## The middle of the screen -/

section
variable {K : Type} [ExactField K]

/-- The marker of the current step is drawn in the middle of the screen. -/
def Centered (s : Session K) : Prop :=
  ∃ m ∈ s.markers, ∃ p, s.walk.currentId = some m.id ∧ m.position = some p ∧
    s.viewport.worldToScreen p = s.viewport.size.center

/-- The session `s'` is `s` at the step with the index, which is in the middle of the screen. -/
structure GoesTo (s : Session K) (index : Int) (s' : Session K) : Prop where
  /-- Nothing changes but the current step and the pan of the view. -/
  kept : s' = { s with
    walk := { s.walk with current := s'.walk.current }
    viewport := { s.viewport with pan := s'.viewport.pan } }
  current : (s'.walk.current : Int) = index
  centered : s'.Centered

variable {settings : Settings K} {s : Session K}

/-- A sound walk that is not over is centered once it is recentered. -/
theorem OnCourse.centered (h : s.OnCourse) (hnodup : (s.markers.map (·.id)).Nodup)
    (hlt : s.walk.current < s.walk.order.length) (v : Viewport K)
    (hview : s.viewport = (s.walk.recenter s.markers v).1) : s.Centered := by
  obtain ⟨m, hm, p, hcurrent, hp, hrecenter⟩ := h.recenter_eq hnodup hlt v
  rw [hrecenter] at hview
  refine ⟨m, hm, p, hcurrent, hp, ?_⟩
  rw [hview, (v.panned_centerOn p).size]
  exact v.worldToScreen_centerOn p

theorem OnCourse.goesTo (h : s.OnCourse) (hnodup : (s.markers.map (·.id)).Nodup) {index : Int}
    (hindex : s.HasStep index) : s.GoesTo index (s.atStep index.toNat) where
  kept := by
    have hpanned := Walk.panned_recenter ({ s.walk with current := index.toNat } : Walk K)
      s.markers s.viewport
    exact congrArg (fun v => { s with
      walk := { s.walk with current := index.toNat }, viewport := v }) hpanned.eq
  current := Int.toNat_of_nonneg hindex.1
  centered := by
    obtain ⟨hnonneg, hlt⟩ := hindex
    have hlt : index.toNat < s.walk.order.length := by omega
    have hat : (s.atStep index.toNat).OnCourse := h.at_index hlt
    exact hat.centered hnodup hlt s.viewport rfl

/-- A new route with steps begins in the middle of the screen. -/
theorem centered_of_generateRoute {s' : Session K} (hnodup : (s.markers.map (·.id)).Nodup)
    (hs' : s.generateRoute = (s', .ok ())) (hsteps : s'.walk.order ≠ []) :
    s'.walk.current = 0 ∧ s.viewport.Panned s'.viewport ∧ s'.Centered := by
  obtain ⟨-, w, v, -, hgenerate, rfl⟩ := generateRoute_outcome.ok hs'
  obtain ⟨m, origin, r, -, -, rfl, rfl⟩ := Walk.planned_of_generate hgenerate
  have hsound : (Walk.along r).Sound s.markers := Walk.sound_of_generate hnodup hgenerate
  exact ⟨rfl, Walk.panned_recenter _ s.markers s.viewport,
    OnCourse.centered hsound hnodup (hsound.current_lt hsteps) s.viewport rfl⟩

/-- **Every step is shown.** In every run and whichever way a session goes along its route: if the
route has the step to go to, the session says so, is at this step then and has its marker in the
middle of the screen, with nothing else changed but the pan. If the route has no such step, or there
is no route, the session says so and stays as it was. A new route with steps has its first one in
the middle of the screen. -/
theorem Reachable.shows_every_step (h : Reachable ListsOnce settings s) :
    (∀ move : Move,
      if s.HasStep (move.target s.walk.current) then
        ∃ s', s.move move = (s', true) ∧ s.GoesTo (move.target s.walk.current) s'
      else s.move move = (s, false)) ∧
    ∀ s', s.generateRoute = (s', .ok ()) → s'.walk.order ≠ [] →
      s'.walk.current = 0 ∧ s.viewport.Panned s'.viewport ∧ s'.Centered := by
  have hnodup := h.anchored.nodup
  refine ⟨fun move => ?_, fun s' => centered_of_generateRoute hnodup⟩
  rw [h.onCourse.move_eq hnodup move]
  split
  · next hstep => exact ⟨_, rfl, h.onCourse.goesTo hnodup hstep⟩
  · rfl

/-- A new route through two markers goes on to the second one, and shows it. -/
theorem second_step_is_shown :
    ∃ s s' : Session ℝ, s.walk.order.length = 2 ∧ s.next = (s', true) ∧ s.GoesTo 1 s' := by
  let marker (id : String) (x : ℝ) : Marker ℝ :=
    ⟨id, .cube, none, "Poeta", none, "Chest", none, some x, some 2, none, false⟩
  let ms := [marker "a" 1, marker "b" 5]
  let chosen : Session ℝ := { (new Settings.standard).atPoeta ms with selected := some "a" }
  have hchosen : Reachable ListsOnce Settings.standard chosen :=
    have hempty : (new Settings.standard : Session ℝ).viewport.size.isEmpty = true := by
      simp [new, Viewport.new, Size.isEmpty, Size.zero]
    have hmap : Reachable ListsOnce Settings.standard ((new Settings.standard).atPoeta ms) :=
      .atPoeta .new hempty (by simp [ListsOnce, ms, marker])
    .step (.selectMarker (some "a")) hmap rfl
  have hmade : ∃ r v,
      chosen.walk.generate chosen.settings.route (some (marker "a" 1)) ms chosen.viewport =
        (Walk.along r, v, .ok ()) ∧ r.IsTour (some "a") ⟨1, 2⟩ (RoutePoint.candidates ms) ∧
      chosen.viewport.Panned v :=
    Walk.generate_of_le rfl (by decide)
  obtain ⟨r, v, hgenerate, htour, -⟩ := hmade
  let s : Session ℝ := { chosen with walk := Walk.along r, viewport := v }
  have hroute : chosen.generateRoute = (s, .ok ()) := by
    have hselected : chosen.selectedMarker = some (marker "a" 1) := rfl
    have hlisted : chosen.markers = ms := rfl
    rw [generateRoute_of_mapped rfl, hselected, hlisted, hgenerate]
    rfl
  have hs : Reachable ListsOnce Settings.standard s := by
    have hrouted : Reachable ListsOnce Settings.standard chosen.generateRoute.1 :=
      .step .generateRoute hchosen rfl
    rwa [hroute] at hrouted
  have hlength : s.walk.order.length = 2 := htour.perm.length_eq
  have hstep : s.HasStep (Move.next.target s.walk.current) :=
    hasStep_natCast.mpr (hlength.symm ▸ Nat.one_lt_two)
  obtain ⟨s', hs', hgoes⟩ := (if_pos hstep).mp (hs.shows_every_step.1 .next)
  exact ⟨s, s', hlength, hs', hgoes⟩

end

end Session

end MarkerAtlas
