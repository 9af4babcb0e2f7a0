import MarkerAtlas.Proofs.Session.History

/-!
# Making a route

What a session has selected is a marker that is listed and lies on the map, through every listing
and every failure. So whether a route can be made hangs on the map, on whether there is a selection
and on how many markers are left to visit, and on nothing else. A new route is a tour of all that
is left, and the session stays as it was but for the walk and the pan of the view.
-/

namespace MarkerAtlas.Session

variable {α : Type} [Scalar α]

/-! ## The selection -/

/-- Listings show no marker twice, under whatever filter. -/
def ListsOnce (_ : MarkerFilter) (ms : List (Marker α)) : Prop := (ms.map (·.id)).Nodup

/-- No marker is listed twice, and what is selected lies on the map. -/
structure Anchored (s : Session α) : Prop where
  nodup : (s.markers.map (·.id)).Nodup
  selected : ∀ id, s.selected = some id → Walk.knows s.markers id = true

/-- A selection that is not listed any more is dropped. -/
theorem anchored_relisted (s : Session α) {ms : List (Marker α)}
    (hms : (ms.map (·.id)).Nodup) : (s.relisted ms).Anchored :=
  ⟨hms, fun _ hid => (Option.filter_eq_some_iff.mp hid).2⟩

section
variable {settings : Settings α} {s : Session α}

/-- One operation keeps the selection on the map. -/
theorem ComesTo.anchored {op : Operation α} {r : After α Unit} (h : s.Anchored)
    (hr : ComesTo ListsOnce s op r) : r.1.Anchored := by
  -- Markers that are listed anew drop a selection that is not among them; a new map drops it in any
  -- case. Nothing else touches the markers, and a new selection is looked up first.
  cases hr with
  | moved v drag walk hop hlists hscreen => exact ⟨h.nodup, h.selected⟩
  | fitted hm => exact ⟨h.nodup, h.selected⟩
  | resized size =>
    obtain ⟨v, due, heq, -⟩ := s.resize_eq size
    rw [heq]
    exact ⟨h.nodup, h.selected⟩
  | clustered enabled => exact ⟨h.nodup, h.selected⟩
  | selected hid => exact ⟨h.nodup, hid⟩
  | failed why hop => exact ⟨h.nodup, h.selected⟩
  | relisted hop hlists hsome hms => exact anchored_relisted s hms
  | filterOnly f hmap => exact ⟨h.nodup, h.selected⟩
  | filterUnlisted f message e => exact ⟨h.nodup, h.selected⟩
  | filterListed f hmap hms => exact anchored_relisted (s.refiltered f) hms
  | mapUnlisted map metadata message e hknown =>
    exact ⟨List.nodup_nil, fun _ hid => by cases hid⟩
  | @mapListed map m ms hname hms =>
    let entered : Session α := { s.cleared map with metadata := some m }
    have hlisted := anchored_relisted entered hms
    obtain ⟨v, due, heq, -⟩ := (entered.relisted ms).fittedOrDue_eq m
    show ((entered.relisted ms).fittedOrDue m).Anchored
    rw [heq]
    exact ⟨hlisted.nodup, hlisted.selected⟩

theorem Reachable.anchored (h : Reachable ListsOnce settings s) : s.Anchored :=
  h.invariant (P := Anchored) ⟨List.nodup_nil, fun _ hid => by cases hid⟩ ComesTo.anchored

/-- What is selected is found among the markers. -/
theorem Anchored.exists_selectedMarker (h : s.Anchored) {id : String} (hid : s.selected = some id) :
    ∃ m ∈ s.markers, m.id = id ∧ m.isPlaced = true ∧ s.selectedMarker = some m := by
  obtain ⟨m, hm, rfl, hplaced⟩ := Walk.knows_iff.mp (h.selected id hid)
  have hfound : s.selectedMarker = some m := by
    rw [selectedMarker, hid, Option.bind_some, Marker.find?_eq_some h.nodup hm]
  exact ⟨m, hm, rfl, hplaced, hfound⟩

/-! ## What is left to visit -/

/-- The markers that are left to visit: those that are not done and lie on the map. -/
def remaining (s : Session α) : List (Marker α) :=
  s.markers.filter fun m => !m.done && m.isPlaced

theorem ids_candidates_markers (s : Session α) :
    (RoutePoint.candidates s.markers).map (·.id) = s.remaining.map (·.id) := by
  rw [RoutePoint.ids_candidates, List.filter_filter]
  congr 2
  funext m
  exact Bool.and_comm _ _

theorem length_candidates_markers (s : Session α) :
    (RoutePoint.candidates s.markers).length = s.remaining.length := by
  simpa using congrArg List.length s.ids_candidates_markers

/-- A marker on the map is left to visit exactly if it is not done. -/
theorem Anchored.id_mem_remaining_iff (h : s.Anchored) {m : Marker α} (hm : m ∈ s.markers)
    (hplaced : m.isPlaced = true) : m.id ∈ s.remaining.map (·.id) ↔ m.done = false := by
  constructor
  · intro hid
    obtain ⟨n, hn, hnid⟩ := List.mem_map.mp hid
    obtain ⟨hn, hleft⟩ := List.mem_filter.mp hn
    -- No two markers have one id, so that it is the same marker.
    obtain rfl : n = m := List.inj_on_of_nodup_map h.nodup hn hm hnid
    simpa [hplaced] using hleft
  · intro hdone
    exact List.mem_map.mpr ⟨m, List.mem_filter.mpr ⟨hm, by simp [hdone, hplaced]⟩, rfl⟩

/-! ## The new route -/

/-- The session `s'` is `s` with the new route `r` from the marker `m`. -/
structure RoutedFrom (s : Session α) (m : Marker α) (r : Route α) (s' : Session α) : Prop where
  /-- Nothing changes but the walk and the pan of the view. -/
  kept : s' = { s with walk := s'.walk, viewport := { s.viewport with pan := s'.viewport.pan } }
  route : s'.walk.route = some r
  visits : r.order.Perm (s.remaining.map (·.id))
  startId : r.startId = some m.id
  start : m.position = some r.start
  fixedStart : r.fixedStart = true ↔ m.done = false
  begins : r.fixedStart = true → r.order[0]? = some m.id
  currentIndex : s'.walk.currentIndex = if r.order = [] then none else some 0
  notice : s'.walk.notice = if r.order = [] then some Walk.nothingLeft else none

/-- The walk along a tour from a marker on the map. -/
theorem Anchored.routedFrom (h : s.Anchored) {m : Marker α} (hm : m ∈ s.markers) {origin : Point α}
    (horigin : m.position = some origin) {r : Route α} {v : Viewport α}
    (htour : r.IsTour (some m.id) origin (RoutePoint.candidates s.markers))
    (hpanned : s.viewport.Panned v) :
    s.RoutedFrom m r { s with walk := Walk.along r, viewport := v } where
  kept := by
    rw [← hpanned.eq]
  route := rfl
  visits := s.ids_candidates_markers ▸ htour.perm
  startId := htour.startId_eq
  start := htour.start_eq ▸ horigin
  fixedStart := by
    have hplaced : m.isPlaced = true := by simp [Marker.isPlaced, horigin]
    rw [htour.fixedStart_iff, s.ids_candidates_markers, ← h.id_mem_remaining_iff hm hplaced]
    simp
  begins := fun hfixed => List.head?_eq_getElem? ▸ htour.head?_eq hfixed
  currentIndex := by simp [Walk.currentIndex, Walk.along, Walk.order]
  notice := by simp [Walk.along]

/-! ## Whether it is made -/

theorem generateRoute_of_unmapped (hnone : s.metadata = none) :
    s.generateRoute = (s, .error s.lacksMap) := by
  rw [generateRoute, requireMap_of_none hnone]

/-- With a map, a route is made if the walk can be made. -/
theorem generateRoute_of_mapped (hsome : s.metadata.isSome = true) :
    s.generateRoute =
      let made := s.walk.generate s.settings.route s.selectedMarker s.markers s.viewport
      ({ s with walk := made.1, viewport := made.2.1 }, made.2.2.mapError .ofRoute) := by
  obtain ⟨m, hm⟩ := Option.isSome_iff_exists.mp hsome
  rw [generateRoute, requireMap_of_some hm]

/-- **Making a route is determined.** Without a map, without its metadata and without a selection it
fails, and says which of them is missing. Otherwise what is selected is a marker that lies on the
map, so that the route has a start. The route is refused if there are more markers left to visit
than it may have, and in no other case: then it is made, and it is as `RoutedFrom` says. -/
theorem route_is_determined (h : Reachable ListsOnce settings s) :
    (s.map = none → s.generateRoute = (s, .error .noMapSelected)) ∧
    (∀ map, s.map = some map → s.metadata = none →
      s.generateRoute = (s, .error (.noMapMeta map))) ∧
    (s.metadata.isSome = true → s.selected = none →
      s.generateRoute = (s, .error .noStartSelected)) ∧
    ∀ id, s.metadata.isSome = true → s.selected = some id →
      ∃ m ∈ s.markers, m.id = id ∧ m.isPlaced = true ∧ s.selectedMarker = some m ∧
        if s.settings.route.maxCandidates < s.remaining.length then
          s.generateRoute =
            (s, .error (.tooManyCandidates ⟨s.remaining.length, s.settings.route.maxCandidates⟩))
        else ∃ r s', s.generateRoute = (s', .ok ()) ∧ s.RoutedFrom m r s' := by
  refine ⟨fun hmap => ?_, fun map hmap hnone => ?_, fun hsome hid => ?_, fun id hsome hid => ?_⟩
  · rw [generateRoute_of_unmapped (h.unmapped hmap).1, lacksMap, hmap]
  · rw [generateRoute_of_unmapped hnone, lacksMap, hmap]
  · -- Without a selection there is no start.
    have hnone : s.selectedMarker = none := by
      rw [selectedMarker, hid]
      rfl
    rw [generateRoute_of_mapped hsome, hnone]
    rfl
  · -- What is selected has a position, so that only the number of markers can be in the way.
    have hs := h.anchored
    obtain ⟨m, hm, hmid, hplaced, hselected⟩ := hs.exists_selectedMarker hid
    obtain ⟨origin, horigin⟩ := Option.isSome_iff_exists.mp hplaced
    refine ⟨m, hm, hmid, hplaced, hselected, ?_⟩
    rw [generateRoute_of_mapped hsome, hselected, ← s.length_candidates_markers]
    split
    · next hlt =>
      rw [Walk.generate_of_lt horigin hlt]
      rfl
    · next hle =>
      obtain ⟨r, v, hgenerate, htour, hpanned⟩ :=
        Walk.generate_of_le (w := s.walk) (v := s.viewport) horigin (Nat.not_lt.mp hle)
      rw [hgenerate]
      exact ⟨r, _, rfl, hs.routedFrom hm horigin htour hpanned⟩

end

/-- From the one chest on the map there is a route, and it begins with the chest. -/
theorem route_from_chest :
    ∃ (s s' : Session Float) (r : Route Float), s.selected = some "a" ∧
      s.generateRoute = (s', .ok ()) ∧ s'.walk.route = some r ∧ r.order = ["a"] := by
  let s : Session Float := { (new Settings.standard).atPoeta [chest] with selected := some "a" }
  have hs : Reachable ListsOnce Settings.standard s :=
    have hmap : Reachable ListsOnce Settings.standard ((new Settings.standard).atPoeta [chest]) :=
      .atPoeta .new isEmpty_size_new (List.nodup_singleton _)
    .step (.selectMarker (some "a")) hmap rfl
  obtain ⟨m, -, -, -, -, hroute⟩ := (route_is_determined hs).2.2.2 "a" rfl rfl
  have hfew : ¬s.settings.route.maxCandidates < s.remaining.length := by decide +kernel
  rw [if_neg hfew] at hroute
  obtain ⟨r, s', hs', hrouted⟩ := hroute
  exact ⟨s, s', r, rfl, hs', hrouted.route, List.perm_singleton.mp hrouted.visits⟩

end MarkerAtlas.Session
