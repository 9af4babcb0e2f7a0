import MarkerAtlas.Proofs.Route.Tour
import MarkerAtlas.Proofs.View.Viewport
import MarkerAtlas.Route.Walk

/-!
# Walks stay sound

A walk is sound for the markers of a map if its route visits no marker twice and only markers
that lie on the map, if its current step is in range, and if a route whose start is fixed begins
with it. Making a route, stepping along it and pruning it when the markers change all keep this,
and the route is then shown step by step, with none left out. Of the view, a walk moves nothing
but the pan.
-/

namespace MarkerAtlas

variable {α : Type}

/-! ## Markers by id -/

theorem Walk.knows_iff [Scalar α] {markers : List (Marker α)} {id : String} :
    Walk.knows markers id = true ↔ ∃ m ∈ markers, m.id = id ∧ m.isPlaced = true := by
  simp only [Walk.knows, List.any_eq_true, Bool.and_eq_true, beq_iff_eq]
  exact exists_congr fun m => and_congr_right fun _ => and_comm

/-- Where no id occurs twice, a marker is the first one with its id. -/
theorem Marker.find?_eq_some {markers : List (Marker α)} (hnd : (markers.map (·.id)).Nodup)
    {m : Marker α} (hm : m ∈ markers) : markers.find? (·.id == m.id) = some m := by
  have hfound : (markers.find? (·.id == m.id)).isSome = true := by
    rw [List.find?_isSome]
    exact ⟨m, hm, beq_self_eq_true _⟩
  obtain ⟨n, hn⟩ := Option.isSome_iff_exists.mp hfound
  have hid : n.id = m.id := by simpa using List.find?_some hn
  rw [hn, List.inj_on_of_nodup_map hnd (List.mem_of_find?_eq_some hn) hm hid]

theorem Walk.lastMarker_foldl_of_notMem (markers : List (Marker α)) (id : String)
    (found : Option (Marker α)) (h : id ∉ markers.map (·.id)) :
    markers.foldl (fun found m => if m.id = id then some m else found) found = found := by
  induction markers generalizing found with
  | nil => rfl
  | cons m ms ih =>
    simp only [List.map_cons, List.mem_cons, not_or] at h
    simp only [List.foldl_cons, if_neg (Ne.symm h.1)]
    exact ih found h.2

/-- Where no id occurs twice, looking a marker up by its id finds it. -/
theorem Walk.lastMarker_eq_some {markers : List (Marker α)} (hnd : (markers.map (·.id)).Nodup)
    {m : Marker α} (hm : m ∈ markers) : Walk.lastMarker markers m.id = some m := by
  -- In general the search goes on from the marker that was found before, which counts for nothing
  -- if `m` is still to come.
  suffices h : ∀ found : Option (Marker α),
      markers.foldl (fun found n => if n.id = m.id then some n else found) found = some m from
    h none
  intro found
  induction markers generalizing found with
  | nil => cases hm
  | cons n ns ih =>
    obtain ⟨hn, hns⟩ := List.nodup_cons.mp hnd
    simp only [List.foldl_cons]
    -- The last marker with the id is found, so that after `m` itself no other one may come.
    rcases List.mem_cons.mp hm with rfl | hm
    · rw [if_pos rfl]
      exact Walk.lastMarker_foldl_of_notMem ns m.id (some m) hn
    · exact ih hns hm _

theorem Walk.of_lastMarker {markers : List (Marker α)} {id : String} {m : Marker α}
    (h : Walk.lastMarker markers id = some m) : m ∈ markers ∧ m.id = id := by
  induction markers using List.reverseRecOn with
  | nil => cases h
  | append_singleton ms n ih =>
    rw [Walk.lastMarker, List.foldl_concat] at h
    split at h
    · next hid =>
      obtain rfl := Option.some.inj h
      exact ⟨List.mem_append_right ms (List.mem_singleton.mpr rfl), hid⟩
    · exact (ih h).imp_left (List.mem_append_left [n])

variable [Scalar α]

theorem RoutePoint.ids_filterMap_ofMarker? (markers : List (Marker α)) :
    (markers.filterMap RoutePoint.ofMarker?).map (·.id) =
      (markers.filter (·.isPlaced)).map (·.id) := by
  induction markers with
  | nil => rfl
  | cons m ms ih =>
    cases hp : m.position with
    | none => simpa [RoutePoint.ofMarker?, Marker.isPlaced, hp] using ih
    | some p => simpa [RoutePoint.ofMarker?, Marker.isPlaced, hp] using ih

/-- What is left to visit are the markers that are not done and lie on the map. -/
theorem RoutePoint.ids_candidates (markers : List (Marker α)) :
    (RoutePoint.candidates markers).map (·.id) =
      ((markers.filter (!·.done)).filter (·.isPlaced)).map (·.id) :=
  RoutePoint.ids_filterMap_ofMarker? _

theorem RoutePoint.nodup_ids_candidates {markers : List (Marker α)}
    (hnd : (markers.map (·.id)).Nodup) : ((RoutePoint.candidates markers).map (·.id)).Nodup := by
  rw [RoutePoint.ids_candidates]
  exact hnd.sublist ((List.filter_sublist.trans List.filter_sublist).map _)

theorem RoutePoint.knows_of_mem_candidates {markers : List (Marker α)} {id : String}
    (h : id ∈ (RoutePoint.candidates markers).map (·.id)) : Walk.knows markers id = true := by
  rw [RoutePoint.ids_candidates] at h
  obtain ⟨m, hm, rfl⟩ := List.mem_map.mp h
  obtain ⟨hm, hplaced⟩ := List.mem_filter.mp hm
  exact Walk.knows_iff.mpr ⟨m, (List.mem_filter.mp hm).1, rfl, hplaced⟩

/-! ## Soundness -/

namespace Walk

/-- The walk is one through the markers. -/
structure Sound (w : Walk α) (markers : List (Marker α)) : Prop where
  nodup : w.order.Nodup
  known : ∀ id ∈ w.order, knows markers id = true
  current_lt : w.order ≠ [] → w.current < w.order.length
  current_eq_zero : w.order = [] → w.current = 0
  fixedStart_head : ∀ r, w.route = some r → r.fixedStart = true →
    ∃ id, r.startId = some id ∧ r.order.head? = some id

theorem sound_empty (markers : List (Marker α)) : (empty : Walk α).Sound markers := by
  refine ⟨?_, ?_, ?_, ?_, ?_⟩ <;> simp [empty, order]

/-- A walk at another step of its route. -/
theorem Sound.at_index {w : Walk α} {markers : List (Marker α)} (h : w.Sound markers) {index : Nat}
    (hi : index < w.order.length) : ({ w with current := index } : Walk α).Sound markers where
  nodup := h.nodup
  known := h.known
  current_lt := fun _ => hi
  current_eq_zero := fun hnil => by
    have : w.order = [] := hnil
    simp [this] at hi
  fixedStart_head := h.fixedStart_head

theorem Sound.goTo {w : Walk α} {markers : List (Marker α)} (h : w.Sound markers) (index : Nat)
    (v : Viewport α) : (w.goTo index markers v).1.Sound markers := by
  unfold Walk.goTo
  split
  · next hi => exact h.at_index hi
  · exact h

theorem Sound.next {w : Walk α} {markers : List (Marker α)} (h : w.Sound markers)
    (v : Viewport α) : (w.next markers v).1.Sound markers := h.goTo _ v

theorem Sound.prev {w : Walk α} {markers : List (Marker α)} (h : w.Sound markers)
    (v : Viewport α) : (w.prev markers v).1.Sound markers := by
  unfold Walk.prev
  split
  · exact h
  · exact h.goTo _ v

/-- The start of a route does not stay fixed when its marker is gone. -/
theorem fixedStart_pruned_of_not_knows {markers : List (Marker α)} {r : Route α} {id : String}
    (hstart : r.startId = some id) (hid : id ∈ r.order) (hgone : knows markers id = false) :
    (pruned markers r).fixedStart = false := by
  have hnot : ¬ knows markers id = true := by
    rw [hgone]
    exact Bool.false_ne_true
  have hshort : ¬ (r.order.filter (knows markers)).length = r.order.length := fun hall =>
    hnot (List.length_filter_eq_length_iff.mp hall id hid)
  have hhead : ((r.order.filter (knows markers)).head? == r.startId) = false := by
    rw [hstart, beq_eq_false_iff_ne]
    exact fun hfirst => hnot (List.mem_filter.mp (List.mem_of_head? hfirst)).2
  simp only [pruned]
  rw [if_neg hshort, hhead, Bool.and_false]

/-- Pruning makes a walk sound for the new markers: what is left is known, the current step is
moved back into range, and a start that was dropped is not fixed any more. -/
theorem Sound.retainKnown {w : Walk α} {markers : List (Marker α)} (h : w.Sound markers)
    (now : List (Marker α)) : (w.retainKnown now).Sound now := by
  obtain ⟨route, current, notice⟩ := w
  -- Without a route there is nothing to prune.
  cases route with
  | none =>
    exact ⟨List.nodup_nil, by simp [Walk.retainKnown, order], by simp [Walk.retainKnown, order],
      fun _ => h.current_eq_zero rfl, by simp [Walk.retainKnown]⟩
  | some r =>
    have horder : (({ route := some r, current := current, notice := notice } :
        Walk α).retainKnown now).order = r.order.filter (knows now) := rfl
    refine ⟨?_, ?_, ?_, ?_, ?_⟩
    · rw [horder]
      exact h.nodup.filter _
    · rw [horder]
      exact fun id hid => (List.mem_filter.mp hid).2
    · rw [horder]
      -- The current step is moved to the last one that is left, if it lay beyond it.
      intro hne
      have := List.length_pos_iff.mpr hne
      simp only [Walk.retainKnown, pruned]
      omega
    · rw [horder]
      intro hnil
      simp [Walk.retainKnown, pruned, hnil]
    · intro r' hr' hfixed
      obtain rfl : pruned now r = r' := Option.some.inj hr'
      simp only [pruned] at hfixed ⊢
      -- A route that lost no step is the same as before; one that did is asked for its first step.
      split at hfixed
      · next hlen =>
        have hsame : r.order.filter (knows now) = r.order :=
          List.filter_sublist.eq_of_length hlen
        rw [hsame]
        exact h.fixedStart_head r rfl hfixed
      · obtain ⟨hbefore, hhead⟩ := (Bool.and_eq_true _ _).mp hfixed
        obtain ⟨id, hid, -⟩ := h.fixedStart_head r rfl hbefore
        exact ⟨id, hid, (beq_iff_eq.mp hhead).trans hid⟩

/-! ## The view along the way -/

theorem panned_recenter (w : Walk α) (markers : List (Marker α)) (v : Viewport α) :
    v.Panned (w.recenter markers v).1 := by
  unfold recenter
  split
  · exact .refl v
  · exact Viewport.panned_centerOn v _

theorem panned_goTo (w : Walk α) (index : Nat) (markers : List (Marker α)) (v : Viewport α) :
    v.Panned (w.goTo index markers v).2.1 := by
  unfold goTo
  split
  · exact panned_recenter _ markers v
  · exact .refl v

theorem panned_prev (w : Walk α) (markers : List (Marker α)) (v : Viewport α) :
    v.Panned (w.prev markers v).2.1 := by
  unfold prev
  split
  · exact .refl v
  · exact panned_goTo w _ markers v

/-! ## Making a route -/

/-- A walk at the first step of its route. A route without steps has a notice instead. -/
def along (r : Route α) : Walk α :=
  ⟨some r, 0, if r.order.isEmpty then some nothingLeft else none⟩

section
variable {w : Walk α} {settings : RouteSettings} {markers : List (Marker α)} {v : Viewport α}
  {m : Marker α} {origin : Point α}

/-- A route is the one that is planned, also where nothing is left to visit; the view moves to its
first step. -/
theorem generate_eq (hm : m.position = some origin) :
    w.generate settings (some m) markers v =
      match settings.plan Point.distance (some m.id) origin (RoutePoint.candidates markers) with
      | .error fault => (w, v, .error (.tooMany fault))
      | .ok r => (along r, ((along r).recenter markers v).1, .ok ()) := by
  unfold generate
  simp only [hm]
  cases hpoints : RoutePoint.candidates markers with
  | nil =>
    -- Nothing is planned here; a plan would have no steps either, and so nothing to go to.
    rw [settings.plan_nil]
    rfl
  | cons p ps =>
    cases hplan : settings.plan Point.distance (some m.id) origin (p :: ps) with
    | error fault => simp only [hplan]
    | ok r =>
      have hsteps : r.order.isEmpty = false := by
        rw [List.isEmpty_eq_false_iff, ← List.length_pos_iff,
          (RouteSettings.isTour_of_plan hplan).perm.length_eq]
        simp
      simp only [hplan, along, hsteps, Bool.false_eq_true, if_false]

/-- More markers than a route may have are refused. -/
theorem generate_of_lt (hm : m.position = some origin)
    (h : settings.maxCandidates < (RoutePoint.candidates markers).length) :
    w.generate settings (some m) markers v =
      (w, v,
        .error (.tooMany ⟨(RoutePoint.candidates markers).length, settings.maxCandidates⟩)) := by
  rw [generate_eq hm, settings.plan_of_lt Point.distance (some m.id) origin _ h]

/-- A route that is not too long is made: a tour of what is left to visit, from the marker on. -/
theorem generate_of_le (hm : m.position = some origin)
    (h : (RoutePoint.candidates markers).length ≤ settings.maxCandidates) :
    ∃ r v', w.generate settings (some m) markers v = (along r, v', .ok ()) ∧
      r.IsTour (some m.id) origin (RoutePoint.candidates markers) ∧ v.Panned v' := by
  obtain ⟨r, hr, htour⟩ := settings.plan_of_le Point.distance (some m.id) origin _ h
  refine ⟨r, _, ?_, htour, panned_recenter (along r) markers v⟩
  rw [generate_eq hm, hr]

end

section
variable {settings : RouteSettings} {start : Option (Marker α)} {markers : List (Marker α)}
  {v v' : Viewport α} {w w' : Walk α}

/-- Where no route is made, the walk and the view stay: there is no start, it has no position, or
the plan is refused. -/
theorem generate_error {e : RouteError}
    (h : w.generate settings start markers v = (w', v', .error e)) :
    w' = w ∧ v' = v := by
  cases start with
  | none =>
    cases h
    exact ⟨rfl, rfl⟩
  | some m =>
    cases hm : m.position with
    | none =>
      simp only [generate, hm] at h
      cases h
      exact ⟨rfl, rfl⟩
    | some origin =>
      rw [generate_eq hm] at h
      split at h
      · -- Only a plan that is refused is an error here.
        cases h
        exact ⟨rfl, rfl⟩
      · cases h

/-- What was made is the walk along a planned route, and the view is at its first step. -/
theorem planned_of_generate (h : w.generate settings start markers v = (w', v', .ok ())) :
    ∃ (m : Marker α) (origin : Point α) (r : Route α), start = some m ∧
      settings.plan Point.distance (some m.id) origin (RoutePoint.candidates markers) = .ok r ∧
      w' = along r ∧ v' = (w'.recenter markers v).1 := by
  cases start with
  | none => cases h
  | some m =>
    cases hm : m.position with
    | none =>
      simp only [generate, hm] at h
      cases h
    | some origin =>
      rw [generate_eq hm] at h
      -- A plan that is refused makes no walk.
      cases hplan : settings.plan Point.distance (some m.id) origin
          (RoutePoint.candidates markers) with
      | error fault =>
        rw [hplan] at h
        cases h
      | ok r =>
        rw [hplan] at h
        cases h
        exact ⟨m, origin, r, rfl, hplan, rfl, rfl⟩

theorem generate_ok (h : w.generate settings start markers v = (w', v', .ok ())) :
    ∃ (m : Marker α) (origin : Point α) (r : Route α), w' = along r ∧
      r.IsTour (some m.id) origin (RoutePoint.candidates markers) ∧ v.Panned v' := by
  obtain ⟨m, origin, r, -, hplan, rfl, rfl⟩ := planned_of_generate h
  exact ⟨m, origin, r, rfl, RouteSettings.isTour_of_plan hplan, panned_recenter _ markers v⟩

/-- A new route makes a sound walk, if no id occurs twice among the markers. -/
theorem sound_of_generate (hnd : (markers.map (·.id)).Nodup)
    (h : w.generate settings start markers v = (w', v', .ok ())) : w'.Sound markers := by
  obtain ⟨m, origin, r, rfl, htour, -⟩ := generate_ok h
  refine ⟨?_, ?_, fun hne => List.length_pos_iff.mpr hne, fun _ => rfl, ?_⟩
  · exact htour.perm.nodup_iff.mpr (RoutePoint.nodup_ids_candidates hnd)
  · intro id hid
    exact RoutePoint.knows_of_mem_candidates (htour.perm.mem_iff.mp hid)
  · rintro _ ⟨⟩ hfixed
    exact ⟨m.id, htour.startId_eq, htour.head?_eq hfixed⟩

end

/-! ## What is shown -/

/-- The route as it is shown has every step, each with its id and its place in the order. -/
theorem stepViews_eq_zipIdx {markers : List (Marker α)} (hnd : (markers.map (·.id)).Nodup)
    {r : Route α} (hknown : ∀ id ∈ r.order, knows markers id = true) :
    (stepViews markers r).map (fun s => (s.id, s.index)) = r.order.zipIdx := by
  have hstep : ∀ x ∈ r.order.zipIdx,
      (stepView markers x.1 x.2).map (fun s => (s.id, s.index)) = some x := by
    rintro ⟨id, index⟩ hx
    obtain ⟨m, hm, rfl, hplaced⟩ := knows_iff.mp (hknown id (List.fst_mem_of_mem_zipIdx hx))
    obtain ⟨p, hp⟩ := Option.isSome_iff_exists.mp hplaced
    simp [stepView, lastMarker_eq_some hnd hm, hp]
  rw [stepViews, List.map_filterMap, List.filterMap_congr hstep, List.filterMap_some]

end Walk

end MarkerAtlas
