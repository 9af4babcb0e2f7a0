import MarkerAtlas.Proofs.Session.Routing

/-!
# A route stays on course

A route leads through markers that are listed and lie on the map. What may break this is a new
listing, and every new listing prunes the route. So in every run each step of the route can be gone
to, as long as no listing shows a marker twice, and whatever maps the markers are from.
-/

namespace MarkerAtlas.Session

variable {α : Type} [Scalar α]

/-- The walk is a sound one through the markers that are listed. -/
def OnCourse (s : Session α) : Prop := s.walk.Sound s.markers

variable {s : Session α}

/-! ## What keeps a session on course -/

theorem onCourse_of_empty (hwalk : s.walk = Walk.empty) : s.OnCourse := by
  unfold OnCourse
  rw [hwalk]
  exact Walk.sound_empty s.markers

theorem OnCourse.relisted (h : s.OnCourse) (ms : List (Marker α)) : (s.relisted ms).OnCourse :=
  Walk.Sound.retainKnown h ms

section
variable (h : s.OnCourse)
include h

theorem OnCourse.showing (part : MapMeta → Viewport α) : (s.showing part).1.OnCourse := by
  refine (showing_outcome part).fst h ?_
  rintro s' ⟨m, -, rfl⟩
  exact h

theorem OnCourse.clickCluster (key : String) : (s.clickCluster key).1.OnCourse := by
  refine (clickCluster_outcome key).fst h ?_
  rintro s' ⟨c, -, -, rfl⟩
  exact h

theorem OnCourse.selectMarker (id : Option String) : (s.selectMarker id).1.OnCourse := by
  refine (selectMarker_outcome id).fst h ?_
  rintro s' ⟨rfl, -⟩
  exact h

/-- A new route leads through what is left to visit, and that is listed. -/
theorem OnCourse.generateRoute (hnodup : (s.markers.map (·.id)).Nodup) :
    s.generateRoute.1.OnCourse := by
  refine generateRoute_outcome.fst h ?_
  rintro s' ⟨m, w, v, -, hgenerate, rfl⟩
  exact Walk.sound_of_generate hnodup hgenerate

variable {listing : MarkerFilter → List (Marker α) → Prop}

theorem OnCourse.refresh {r : After α Unit} (hr : s.refresh.Yields listing r) : r.1.OnCourse := by
  obtain ⟨-, rfl⟩ | ⟨-, ⟨why, rfl⟩ | ⟨ms, -, rfl⟩⟩ := refresh_cases hr
  · exact h
  · exact h
  · exact h.relisted ms

theorem OnCourse.setFilter {f : MarkerFilter} {r : After α Unit}
    (hr : (s.setFilter f).Yields listing r) : r.1.OnCourse := by
  have hrefiltered : (s.refiltered f).OnCourse := h
  obtain ⟨-, rfl⟩ | ⟨-, hr⟩ := setFilter_cases hr
  · exact hrefiltered
  · exact hrefiltered.refresh hr

theorem OnCourse.setDone {id : String} {done : Bool} {r : After α Unit}
    (hr : (s.setDone id done).Yields listing r) : r.1.OnCourse := by
  obtain ⟨e, -, rfl⟩ | ⟨why, rfl⟩ | hr := setDone_cases hr
  · exact h
  · exact h
  · exact h.refresh hr

theorem OnCourse.toggleDone {id : String} {r : After α Bool}
    (hr : (s.toggleDone id).Yields listing r) : r.1.OnCourse := by
  obtain ⟨e, -, rfl⟩ | ⟨m, r', -, hset, rfl⟩ := toggleDone_cases hr
  · exact h
  · exact h.setDone hset

omit h in
/-- On another map there is no route yet. -/
theorem onCourse_selectMap {map : String} {r : After α Unit}
    (hr : (s.selectMap map).Yields listing r) : r.1.OnCourse := by
  have hcleared : ∀ metadata, ({ s.cleared map with metadata := metadata } : Session α).OnCourse :=
    fun metadata => onCourse_of_empty rfl
  obtain ⟨why, rfl⟩ | rfl | ⟨m, -, ⟨why, rfl⟩ | ⟨ms, -, rfl⟩⟩ := selectMap_cases hr
  · exact hcleared none
  · exact hcleared none
  · exact hcleared (some m)
  · have hlisted := (hcleared (some m)).relisted ms
    -- Fitting the map, now or later, does not touch the listing.
    obtain ⟨v, due, heq, -⟩ :=
      (({ s.cleared map with metadata := some m } : Session α).relisted ms).fittedOrDue_eq m
    rw [heq]
    exact hlisted

/-- One operation keeps a session on course. -/
theorem OnCourse.attempt (hnodup : (s.markers.map (·.id)).Nodup) {op : Operation α}
    {r : After α Unit} (hr : (s.attempt op).Yields listing r) : r.1.OnCourse := by
  -- Listings prune the walk to what is listed, a change of the map ends it, and a move goes to one
  -- of its steps.
  cases op with
  | selectMap map => exact onCourse_selectMap hr
  | setFilter filter => exact h.setFilter hr
  | refresh => exact h.refresh hr
  | setDone id done => exact h.setDone hr
  | toggleDone id =>
    obtain ⟨r', hr', rfl⟩ := (Dialogue.yields_map _ _ _).mp hr
    exact h.toggleDone hr'
  | resize size =>
    cases hr
    obtain ⟨v, due, heq, -⟩ := s.resize_eq size
    have hresized : (s.resize size).OnCourse := by
      rw [heq]
      exact h
    exact hresized
  | fit => cases hr; exact h.showing _
  | zoomIn => cases hr; exact h.showing _
  | zoomOut => cases hr; exact h.showing _
  | input event =>
    cases hr
    unfold Session.input
    split
    · exact h
    · exact h
  | tick => cases hr; exact h
  | setClustering enabled => cases hr; exact h
  | clickCluster key => cases hr; exact h.clickCluster key
  | selectMarker id => cases hr; exact h.selectMarker id
  | generateRoute => cases hr; exact h.generateRoute hnodup
  | next => cases hr; exact Walk.Sound.next h s.viewport
  | prev => cases hr; exact Walk.Sound.prev h s.viewport
  | goTo index => cases hr; exact Walk.Sound.goTo h index s.viewport
  | recenter => cases hr; exact h
  | clearRoute => cases hr; exact onCourse_of_empty rfl

end

/-! ## Runs -/

/-- Every run keeps a session on course. -/
theorem Reachable.onCourse {settings : Settings α} (h : Reachable ListsOnce settings s) :
    s.OnCourse := by
  induction h with
  | new => exact onCourse_of_empty rfl
  | step op hs h ih =>
    rw [perform_eq_map_attempt] at h
    obtain ⟨r, hr, rfl⟩ := (Dialogue.yields_map _ _ _).mp h
    exact ih.attempt hs.anchored.nodup hr

end MarkerAtlas.Session
