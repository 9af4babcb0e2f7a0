import Mathlib
import MarkerAtlas.Proofs.Scalar.Exact
import MarkerAtlas.Proofs.Session.Course

/-!
# The length of a route as it is shown

The length of a route is measured twice: once by what plans the route, on the markers that were left
to visit, and then each time the route is shown, on the steps that are shown. Both look positions up
by id and pass over ids that they do not find. In a run no id of the route is passed over and each
leads to the marker that is listed, so that the length shown is that of the way through the steps
shown, and right after planning it is the planned one.
-/

namespace MarkerAtlas

variable {α : Type} [Scalar α]

/-! ## Lengths -/

/-- The length of the straight line between two points: the third side over what their coordinates
differ by. -/
def lineLength (p q : Point α) : α := Scalar.hypot (p.x - q.x) (p.y - q.y)

/-- The length of the way through some points: the lines from each to the next, one after another,
and first the line from the start, if that is not the first of them. -/
def lengthThrough (start : Point α) (fixedStart : Bool) : List (Point α) → Option α
  | [] => none
  | first :: rest =>
    some ((List.zipWith lineLength (first :: rest) rest).foldl (· + ·)
      (if fixedStart then 0 else lineLength start first))

/-- Over the real numbers it is the length that Pythagoras tells. -/
theorem lineLength_eq {p q : Point ℝ} {d : ℝ} (hd : 0 ≤ d)
    (h : (p.x - q.x) ^ 2 + (p.y - q.y) ^ 2 = d ^ 2) : lineLength p q = d := by
  show √((p.x - q.x) ^ 2 + (p.y - q.y) ^ 2) = d
  rw [h, Real.sqrt_sq hd]

/-- What is measured between two points is the line between them. -/
theorem distance_eq_lineLength : (Point.distance : Metric α) = lineLength := rfl

theorem lengthThrough_eq_none_iff (start : Point α) (fixedStart : Bool) (points : List (Point α)) :
    lengthThrough start fixedStart points = none ↔ points = [] := by
  cases points <;> simp [lengthThrough]

theorem legsFrom_eq_foldl (dist : Metric α) (total : α) (p : Point α) (qs : List (Point α)) :
    legsFrom dist total p qs = (List.zipWith dist (p :: qs) qs).foldl (· + ·) total := by
  induction qs generalizing total p with
  | nil => rfl
  | cons q qs ih => exact ih (total + dist p q) q

/-- The length of a route is that of the way through the points of its ids. -/
theorem lengthThrough_filterMap_locate (start : Point α) (fixedStart : Bool) {order : List String}
    {points : List (RoutePoint α)} (h : order.filterMap (RoutePoint.locate points) ≠ []) :
    lengthThrough start fixedStart (order.filterMap (RoutePoint.locate points)) =
      some (routeDistance Point.distance start order points fixedStart) := by
  unfold routeDistance
  cases hway : order.filterMap (RoutePoint.locate points) with
  | nil => exact absurd hway h
  | cons first rest =>
    rw [distance_eq_lineLength]
    exact congrArg some (legsFrom_eq_foldl _ _ first rest).symm

/-! ## Where the steps lie -/

namespace Walk

variable {markers : List (Marker α)}

/-- Where the marker with an id is shown. -/
def placeOf (markers : List (Marker α)) (id : String) : Option (Point α) :=
  (lastMarker markers id).bind (·.position)

theorem map_position_stepView (markers : List (Marker α)) (id : String) (index : Nat) :
    (stepView markers id index).map (·.position) = placeOf markers id := by
  unfold stepView placeOf
  cases lastMarker markers id with
  | none => rfl
  | some m =>
    cases hp : m.position with
    | none => simp [hp]
    | some p => simp [hp]

theorem map_position_stepViews (markers : List (Marker α)) (r : Route α) :
    (stepViews markers r).map (·.position) = r.order.filterMap (placeOf markers) := by
  rw [stepViews, List.map_filterMap]
  simp only [map_position_stepView]
  rw [show (fun x : String × Nat => placeOf markers x.1) = placeOf markers ∘ Prod.fst from rfl,
    ← List.filterMap_map, List.zipIdx_map_fst]

theorem map_id_stepViews (hnd : (markers.map (·.id)).Nodup) {r : Route α}
    (hknown : ∀ id ∈ r.order, knows markers id = true) :
    (stepViews markers r).map (·.id) = r.order := by
  have h := congrArg (List.map Prod.fst) (stepViews_eq_zipIdx hnd hknown)
  rwa [List.map_map, List.zipIdx_map_fst] at h

theorem positions_eq_nil_iff (hnd : (markers.map (·.id)).Nodup) {r : Route α}
    (hknown : ∀ id ∈ r.order, knows markers id = true) :
    (stepViews markers r).map (·.position) = [] ↔ r.order = [] := by
  rw [← map_id_stepViews hnd hknown, List.map_eq_nil_iff, List.map_eq_nil_iff]

/-- What is left to visit is shown where it is visited. -/
theorem locate_candidates (hnd : (markers.map (·.id)).Nodup) {id : String}
    (hid : id ∈ (RoutePoint.candidates markers).map (·.id)) :
    RoutePoint.locate (RoutePoint.candidates markers) id = placeOf markers id := by
  obtain ⟨c, hc, rfl⟩ := List.mem_map.mp hid
  obtain ⟨m, hm, hmc⟩ := List.mem_filterMap.mp hc
  obtain ⟨p, hp, rfl⟩ := Option.map_eq_some_iff.mp hmc
  have hlisted : m ∈ markers := (List.mem_filter.mp hm).1
  rw [locate_of_mem (RoutePoint.nodup_ids_candidates hnd) hc, placeOf,
    lastMarker_eq_some hnd hlisted, Option.bind_some, hp]

/-- A tour of what is left to visit is shown where it was planned. -/
theorem map_position_stepViews_of_isTour (hnd : (markers.map (·.id)).Nodup) {r : Route α}
    {startId : Option String} {start : Point α}
    (h : r.IsTour startId start (RoutePoint.candidates markers)) :
    (stepViews markers r).map (·.position) =
      r.order.filterMap (RoutePoint.locate (RoutePoint.candidates markers)) := by
  rw [map_position_stepViews]
  exact List.filterMap_congr fun id hid => (locate_candidates hnd (h.perm.mem_iff.mp hid)).symm

/-- Measured on the steps that are shown, no id is passed over. -/
theorem filterMap_locate_stepViews (hnd : (markers.map (·.id)).Nodup) {r : Route α}
    (hnodup : r.order.Nodup) (hknown : ∀ id ∈ r.order, knows markers id = true) :
    r.order.filterMap (RoutePoint.locate ((stepViews markers r).map fun s => ⟨s.id, s.position⟩)) =
      (stepViews markers r).map (·.position) := by
  have hids : ((stepViews markers r).map fun s => RoutePoint.mk s.id s.position).map (·.id) =
      r.order := by
    rw [List.map_map]
    exact map_id_stepViews hnd hknown
  have h := filterMap_locate (hids ▸ hnodup)
  rw [hids, List.map_map] at h
  exact h

/-- The length that is shown is that of the way through the steps that are shown. -/
theorem Sound.totalDistance_view {w : Walk α} (h : w.Sound markers)
    (hnd : (markers.map (·.id)).Nodup) {r : Route α} (hroute : w.route = some r) :
    (stepViews markers r).map (·.id) = r.order ∧
      (w.view markers).totalDistance =
        lengthThrough r.start r.fixedStart ((stepViews markers r).map (·.position)) ∧
      ((w.view markers).totalDistance = none ↔ r.order = []) := by
  have horder : w.order = r.order := by
    rw [order, hroute]
    rfl
  have hnodup : r.order.Nodup := horder ▸ h.nodup
  have hknown : ∀ id ∈ r.order, knows markers id = true := horder ▸ h.known
  have hnil := positions_eq_nil_iff hnd hknown
  have hshown : (w.view markers).totalDistance =
      lengthThrough r.start r.fixedStart ((stepViews markers r).map (·.position)) := by
    unfold view
    simp only [hroute]
    -- A route without steps has no length to show, not a length of zero.
    by_cases hempty : r.order = []
    · rw [hnil.mpr hempty, hempty]
      rfl
    · have hway := filterMap_locate_stepViews hnd hnodup hknown
      have hne := mt hnil.mp hempty
      rw [← hway] at hne ⊢
      rw [if_neg (by simpa using hempty), lengthThrough_filterMap_locate _ _ hne]
  exact ⟨map_id_stepViews hnd hknown, hshown, by rw [hshown, lengthThrough_eq_none_iff, hnil]⟩

end Walk

/-! ## Runs -/

namespace Session

variable {settings : Settings α} {s : Session α}

/-- **The length that is shown is that of the route that is shown.** In every run, however often the
markers were listed anew, a route is shown with all its steps. No length is shown if there are none;
otherwise it is the sum of the lengths of the straight lines from each step to the next, and first
of the line from the start to the first step, if the start is not fixed. Right after a route with
steps was made the length is the planned one. -/
theorem Reachable.shows_length (h : Reachable ListsOnce settings s) :
    (∀ r, s.walk.route = some r →
      s.routeView.steps.map (·.id) = r.order ∧
      s.routeView.totalDistance =
        lengthThrough r.start s.routeView.fixedStart (s.routeView.steps.map (·.position)) ∧
      (s.routeView.totalDistance = none ↔ r.order = [])) ∧
    ∀ s' r, s.generateRoute = (s', .ok ()) → s'.walk.route = some r → r.order ≠ [] →
      s'.routeView.totalDistance = some r.distance := by
  have hnodup := h.anchored.nodup
  refine ⟨fun r hroute => ?_, fun s' r hs' hroute hsteps => ?_⟩
  · have hview := h.onCourse.totalDistance_view hnodup hroute
    simp only [routeView, Walk.view, hroute] at hview ⊢
    exact hview
  · obtain ⟨-, w, v, -, hgenerate, rfl⟩ := generateRoute_outcome.ok hs'
    obtain ⟨m, origin, r', -, hplan, rfl, rfl⟩ := Walk.planned_of_generate hgenerate
    obtain rfl : r' = r := Option.some.inj hroute
    have hsound : (Walk.along r').Sound s.markers := Walk.sound_of_generate hnodup hgenerate
    obtain ⟨hids, hshown, -⟩ := hsound.totalDistance_view hnodup rfl
    -- The steps lie where the planner found them, though it looked among other points.
    have hplanned :=
      Walk.map_position_stepViews_of_isTour hnodup (RouteSettings.isTour_of_plan hplan)
    have hne : (Walk.stepViews s.markers r').map (·.position) ≠ [] := fun hnil => by
      rw [List.map_eq_nil_iff.mp hnil] at hids
      exact hsteps hids.symm
    rw [hplanned] at hshown hne
    rw [RouteSettings.distance_of_plan hplan, ← lengthThrough_filterMap_locate _ _ hne]
    exact hshown

/-- A route leads from a chest at `(1, 2)` through two others. The first one is gone from the next
listing and one of the others has moved. Both are now 5 away from where the first one was, and 6
from each other, so that the length is 11 in whichever order they are visited. -/
theorem length_without_fixed_start :
    ∃ (s : Session ℝ) (r : Route ℝ), s.walk.route = some r ∧ r.start = ⟨1, 2⟩ ∧
      (s.routeView.steps.map (·.id)).Perm ["b", "c"] ∧ s.routeView.totalDistance = some 11 := by
  let marker (id : String) (x y : ℝ) : Marker ℝ :=
    ⟨id, .cube, none, "Poeta", none, "Chest", none, some x, some y, none, false⟩
  let before := [marker "a" 1 2, marker "b" 4 2, marker "c" (-2) 6]
  let now := [marker "b" 4 6, marker "c" (-2) 6]
  let chosen : Session ℝ :=
    { (new Settings.standard).atPoeta before with selected := some "a" }
  have hchosen : Reachable ListsOnce Settings.standard chosen :=
    have hempty : (new Settings.standard : Session ℝ).viewport.size.isEmpty = true := by
      simp [new, Viewport.new, Size.isEmpty, Size.zero]
    have hmap : Reachable ListsOnce Settings.standard ((new Settings.standard).atPoeta before) :=
      .atPoeta .new hempty (by simp [ListsOnce, before, marker])
    .step (.selectMarker (some "a")) hmap rfl
  have hmade : ∃ r v,
      chosen.walk.generate chosen.settings.route (some (marker "a" 1 2)) before chosen.viewport =
        (Walk.along r, v, .ok ()) ∧
      r.IsTour (some "a") ⟨1, 2⟩ (RoutePoint.candidates before) ∧ chosen.viewport.Panned v :=
    Walk.generate_of_le rfl (by decide)
  obtain ⟨r, v, hgenerate, htour, -⟩ := hmade
  let routed : Session ℝ := { chosen with walk := Walk.along r, viewport := v }
  have hrouted : Reachable ListsOnce Settings.standard routed := by
    have hstep : Reachable ListsOnce Settings.standard chosen.generateRoute.1 :=
      .step .generateRoute hchosen rfl
    have hselected : chosen.selectedMarker = some (marker "a" 1 2) := rfl
    have hlisted : chosen.markers = before := rfl
    rwa [generateRoute_of_mapped rfl, hselected, hlisted, hgenerate] at hstep
  let s : Session ℝ := routed.relisted now
  have hs : Reachable ListsOnce Settings.standard s :=
    .step .refresh hrouted
      ⟨.ok now, fun _ hms => by cases hms; simp [ListsOnce, now, marker], rfl⟩
  obtain ⟨hids, hlength, -⟩ := hs.shows_length.1 _ rfl
  -- What is left of the route are the two others, in some order.
  have hleft : (Walk.pruned now r).order.Perm ["b", "c"] := htour.perm.filter (Walk.knows now)
  have horder : (Walk.pruned now r).order = ["b", "c"] ∨
      (Walk.pruned now r).order = ["c", "b"] := by
    simpa [List.permutations'] using List.mem_permutations'.mpr hleft
  have hfixed : s.routeView.fixedStart = false :=
    Walk.fixedStart_pruned_of_not_knows htour.startId_eq
      (htour.perm.mem_iff.mpr List.mem_cons_self) rfl
  have hplaces : s.routeView.steps.map (·.position) =
      (Walk.pruned now r).order.filterMap (Walk.placeOf now) := Walk.map_position_stepViews now _
  have hb : lineLength (⟨1, 2⟩ : Point ℝ) ⟨4, 6⟩ = 5 := lineLength_eq (by norm_num) (by norm_num)
  have hc : lineLength (⟨1, 2⟩ : Point ℝ) ⟨-2, 6⟩ = 5 := lineLength_eq (by norm_num) (by norm_num)
  have hbc : lineLength (⟨4, 6⟩ : Point ℝ) ⟨-2, 6⟩ = 6 := lineLength_eq (by norm_num) (by norm_num)
  have hcb : lineLength (⟨-2, 6⟩ : Point ℝ) ⟨4, 6⟩ = 6 := lineLength_eq (by norm_num) (by norm_num)
  refine ⟨s, Walk.pruned now r, rfl, htour.start_eq, hids ▸ hleft, ?_⟩
  rw [hlength, hfixed, hplaces, show (Walk.pruned now r).start = ⟨1, 2⟩ from htour.start_eq]
  rcases horder with horder | horder
  · rw [horder, show ["b", "c"].filterMap (Walk.placeOf now) = [⟨4, 6⟩, ⟨-2, 6⟩] from rfl]
    simp only [lengthThrough, List.zipWith, List.foldl, hb, hbc]
    norm_num
  · rw [horder, show ["c", "b"].filterMap (Walk.placeOf now) = [⟨-2, 6⟩, ⟨4, 6⟩] from rfl]
    simp only [lengthThrough, List.zipWith, List.foldl, hc, hcb]
    norm_num

end Session

end MarkerAtlas
