import MarkerAtlas.Proofs.Route.Walk
import MarkerAtlas.Proofs.Session.Run
import MarkerAtlas.Scalar.Double

/-!
# Sessions stay sound

The fields of a session belong together: the selection and the route refer to the markers, and
these to the map. `Sound` says how, and every operation keeps it, whatever fails on the way, over
stores whose listings are faithful.
-/

namespace MarkerAtlas.Session

variable {α : Type} [Scalar α]

/-! ## The invariant -/

/-- The fields of the session belong together. -/
structure Sound (s : Session α) : Prop where
  nodup : (s.markers.map (·.id)).Nodup
  walk : s.walk.Sound s.markers
  selected : ∀ id, s.selected = some id → Walk.knows s.markers id = true
  /-- Without metadata there is nothing to show and nothing to wait for. -/
  blank : s.metadata = none → s.markers = [] ∧ s.walk = Walk.empty ∧ s.selected = none ∧
    s.drag = DragState.idle ∧ s.needsFit = false
  onMap : ∀ map, s.map = some map → s.filter.map = some map ∧ ∀ m ∈ s.markers, m.map = map
  unmapped : s.map = none → s.metadata = none

theorem sound_new (settings : Settings α) : (new settings).Sound where
  nodup := List.nodup_nil
  walk := Walk.sound_empty []
  selected := fun _ h => by cases h
  blank := fun _ => ⟨rfl, rfl, rfl, rfl, rfl⟩
  onMap := fun _ h => by cases h
  unmapped := fun _ => rfl

/-! ## Operations that keep the markers -/

section
variable {s : Session α} (h : s.Sound)
include h

theorem Sound.withViewport (v : Viewport α) : ({ s with viewport := v } : Session α).Sound :=
  ⟨h.nodup, h.walk, h.selected, h.blank, h.onMap, h.unmapped⟩

theorem Sound.withPageError (e : Option String) : ({ s with pageError := e } : Session α).Sound :=
  ⟨h.nodup, h.walk, h.selected, h.blank, h.onMap, h.unmapped⟩

theorem Sound.withSettings (settings : Settings α) :
    ({ s with settings := settings } : Session α).Sound :=
  ⟨h.nodup, h.walk, h.selected, h.blank, h.onMap, h.unmapped⟩

theorem Sound.failed (why : StoreFailure) : (s.failed why).Sound := h.withPageError _

/-- What waits for a map may be anything once there is metadata. -/
theorem Sound.withNeedsFit (due : Bool) (hdue : due = true → s.metadata.isSome = true) :
    ({ s with needsFit := due } : Session α).Sound where
  nodup := h.nodup
  walk := h.walk
  selected := h.selected
  blank := fun hnone => by
    obtain ⟨hmarkers, hwalk, hselected, hdrag, -⟩ := h.blank hnone
    refine ⟨hmarkers, hwalk, hselected, hdrag, ?_⟩
    cases due with
    | false => rfl
    | true =>
      have hsome := hdue rfl
      rw [hnone] at hsome
      cases hsome
  onMap := h.onMap
  unmapped := h.unmapped

theorem Sound.withDrag (drag : DragState α) (v : Viewport α)
    (hdrag : s.metadata = none → drag = DragState.idle) :
    ({ s with drag := drag, viewport := v } : Session α).Sound where
  nodup := h.nodup
  walk := h.walk
  selected := h.selected
  blank := fun hnone => by
    obtain ⟨hmarkers, hwalk, hselected, -, hfit⟩ := h.blank hnone
    exact ⟨hmarkers, hwalk, hselected, hdrag hnone, hfit⟩
  onMap := h.onMap
  unmapped := h.unmapped

theorem Sound.withWalk (w : Walk α) (v : Viewport α) (hw : w.Sound s.markers)
    (hblank : s.metadata = none → w = Walk.empty) :
    ({ s with walk := w, viewport := v } : Session α).Sound where
  nodup := h.nodup
  walk := hw
  selected := h.selected
  blank := fun hnone => by
    obtain ⟨hmarkers, -, hselected, hdrag, hfit⟩ := h.blank hnone
    exact ⟨hmarkers, hblank hnone, hselected, hdrag, hfit⟩
  onMap := h.onMap
  unmapped := h.unmapped

theorem Sound.withSelected (id : Option String)
    (hid : ∀ id', id = some id' → Walk.knows s.markers id' = true) :
    ({ s with selected := id } : Session α).Sound where
  nodup := h.nodup
  walk := h.walk
  selected := hid
  blank := fun hnone => by
    obtain ⟨hmarkers, hwalk, -, hdrag, hfit⟩ := h.blank hnone
    refine ⟨hmarkers, hwalk, ?_, hdrag, hfit⟩
    -- Nothing is listed without metadata, and so nothing can be selected.
    cases id with
    | none => rfl
    | some id =>
      have hknown := hid id rfl
      rw [hmarkers] at hknown
      cases hknown
  onMap := h.onMap
  unmapped := h.unmapped

theorem Sound.fittedOrDue {m : MapMeta} (hm : s.metadata = some m) : (s.fittedOrDue m).Sound := by
  unfold Session.fittedOrDue
  split
  · exact h.withNeedsFit true fun _ => by rw [hm]; rfl
  · exact h.withViewport _

theorem Sound.resize (size : Size α) : (s.resize size).Sound := by
  have hsized := h.withViewport (s.viewport.setSize size)
  simp only [Session.resize]
  split
  · split
    · exact hsized
    · exact (hsized.withViewport _).withNeedsFit false fun hdue => by cases hdue
  · exact hsized

theorem Sound.input (event : InputEvent α) : (s.input event).1.Sound := by
  unfold Session.input
  split
  · exact h
  · next hsome =>
    refine h.withDrag _ _ fun hnone => ?_
    rw [hnone] at hsome
    exact absurd rfl hsome

/-- Without metadata nothing is dragged, so a tick finds nothing to apply. -/
theorem Sound.tick : s.tick.1.Sound := by
  refine h.withDrag _ _ fun hnone => ?_
  obtain ⟨-, -, -, hdrag, -⟩ := h.blank hnone
  rw [hdrag]
  rfl

theorem Sound.goTo (index : Nat) : (s.goTo index).1.Sound := by
  refine h.withWalk _ _ (h.walk.goTo index _) fun hnone => ?_
  obtain ⟨-, hwalk, -⟩ := h.blank hnone
  rw [hwalk]
  rfl

theorem Sound.next : s.next.1.Sound := h.goTo _

theorem Sound.prev : s.prev.1.Sound := by
  refine h.withWalk _ _ (h.walk.prev _) fun hnone => ?_
  obtain ⟨-, hwalk, -⟩ := h.blank hnone
  rw [hwalk]
  rfl

theorem Sound.clearRoute : s.clearRoute.Sound :=
  h.withWalk Walk.empty s.viewport (Walk.sound_empty _) fun _ => rfl

/-! ## Operations that may fail without the store -/

theorem Sound.showing (part : MapMeta → Viewport α) : (s.showing part).1.Sound := by
  refine (showing_outcome part).fst h ?_
  rintro s' ⟨m, -, rfl⟩
  exact h.withViewport _

theorem Sound.clickCluster (key : String) : (s.clickCluster key).1.Sound := by
  refine (clickCluster_outcome key).fst h ?_
  rintro s' ⟨c, -, -, rfl⟩
  exact h.withViewport _

theorem Sound.selectMarker (id : Option String) : (s.selectMarker id).1.Sound := by
  refine (selectMarker_outcome id).fst h ?_
  rintro s' ⟨rfl, hid⟩
  refine h.withSelected id fun id' hid' => ?_
  obtain ⟨m, hfind, hplaced⟩ := hid id' hid'
  have hm : m.id = id' := by simpa using List.find?_some hfind
  exact Walk.knows_iff.mpr ⟨m, List.mem_of_find?_eq_some hfind, hm, hplaced⟩

theorem Sound.generateRoute : s.generateRoute.1.Sound := by
  refine generateRoute_outcome.fst h ?_
  rintro s' ⟨m, w, v, hm, hgenerate, rfl⟩
  -- Without metadata there is no route, so the walk that was made need not be empty.
  refine h.withWalk w v (Walk.sound_of_generate h.nodup hgenerate) fun hnone => ?_
  rw [hm] at hnone
  cases hnone

/-! ## Operations that talk to the store -/

/-- A new listing prunes the route and drops a selection that is gone. -/
theorem Sound.relisted {m : MapMeta} (hm : s.metadata = some m) {markers : List (Marker α)}
    (hmarkers : s.filter.Faithful markers) : (s.relisted markers).Sound where
  nodup := hmarkers.nodup
  walk := h.walk.retainKnown markers
  selected := fun id hid => (Option.filter_eq_some_iff.mp hid).2
  blank := fun hnone => by
    have hnone : s.metadata = none := hnone
    rw [hm] at hnone
    cases hnone
  onMap := fun map hmap => by
    -- The filter asks for the map that is selected, and the listing is faithful to the filter.
    have hfilter := (h.onMap map hmap).1
    exact ⟨hfilter, hmarkers.onMap map hfilter⟩
  unmapped := h.unmapped

theorem Sound.refresh {r : After α Unit} (hr : s.refresh.Yields MarkerFilter.Faithful r) :
    r.1.Sound := by
  obtain ⟨-, rfl⟩ | ⟨hsome, ⟨why, rfl⟩ | ⟨ms, hms, rfl⟩⟩ := refresh_cases hr
  · exact h
  · exact h.failed why
  · obtain ⟨m, hm⟩ := Option.isSome_iff_exists.mp hsome
    exact h.relisted hm hms

omit h in
/-- A change of the map starts over, whatever the session was before. -/
theorem sound_cleared (s : Session α) (map : String) : (s.cleared map).Sound where
  nodup := List.nodup_nil
  walk := Walk.sound_empty []
  selected := fun _ hid => by cases hid
  blank := fun _ => ⟨rfl, rfl, rfl, rfl, rfl⟩
  onMap := fun map' hmap => by
    obtain rfl := Option.some.inj hmap
    exact ⟨rfl, fun m hm => by cases hm⟩
  unmapped := fun hnone => by cases hnone

omit h in
/-- The map that was looked for is found, and nothing of it is listed yet. -/
theorem sound_entered (s : Session α) (map : String) (m : MapMeta) :
    ({ s.cleared map with metadata := some m } : Session α).Sound :=
  have hs := sound_cleared s map
  ⟨hs.nodup, hs.walk, hs.selected, (fun hnone => by cases hnone), hs.onMap,
    (fun hnone => by cases hnone)⟩

omit h in
theorem sound_selectMap (s : Session α) {map : String} {r : After α Unit}
    (hr : (s.selectMap map).Yields MarkerFilter.Faithful r) : r.1.Sound := by
  obtain ⟨why, rfl⟩ | rfl | ⟨m, -, ⟨why, rfl⟩ | ⟨ms, hms, rfl⟩⟩ := selectMap_cases hr
  · exact (sound_cleared s map).failed why
  · exact (sound_cleared s map).withPageError _
  · exact (sound_entered s map m).failed why
  · exact ((sound_entered s map m).relisted rfl hms).fittedOrDue rfl

/-- The map that is selected wins over the one of the filter. -/
theorem Sound.refiltered (f : MarkerFilter) : (s.refiltered f).Sound where
  nodup := h.nodup
  walk := h.walk
  selected := h.selected
  blank := h.blank
  onMap := fun map hmap => ⟨hmap, (h.onMap map hmap).2⟩
  unmapped := h.unmapped

theorem Sound.setFilter {f : MarkerFilter} {r : After α Unit}
    (hr : (s.setFilter f).Yields MarkerFilter.Faithful r) : r.1.Sound := by
  obtain ⟨-, rfl⟩ | ⟨-, hr⟩ := setFilter_cases hr
  · exact h.refiltered f
  · exact (h.refiltered f).refresh hr

theorem Sound.setDone {id : String} {done : Bool} {r : After α Unit}
    (hr : (s.setDone id done).Yields MarkerFilter.Faithful r) : r.1.Sound := by
  obtain ⟨e, -, rfl⟩ | ⟨why, rfl⟩ | hr := setDone_cases hr
  · exact h
  · exact h.failed why
  · exact h.refresh hr

theorem Sound.toggleDone {id : String} {r : After α Bool}
    (hr : (s.toggleDone id).Yields MarkerFilter.Faithful r) : r.1.Sound := by
  obtain ⟨e, -, rfl⟩ | ⟨m, r', -, hr', rfl⟩ := toggleDone_cases hr
  · exact h
  · exact h.setDone hr'

/-! ## Runs -/

/-- One operation keeps a session sound. -/
theorem Sound.perform {op : Operation α} {s' : Session α}
    (hs' : (s.perform op).Yields MarkerFilter.Faithful s') : s'.Sound := by
  -- One case per operation; those that ask the store are taken apart by what its answers can be.
  cases op with
  | selectMap map =>
    obtain ⟨r, hr, rfl⟩ := (Dialogue.yields_map _ _ _).mp hs'
    exact sound_selectMap s hr
  | setFilter filter =>
    obtain ⟨r, hr, rfl⟩ := (Dialogue.yields_map _ _ _).mp hs'
    exact h.setFilter hr
  | refresh =>
    obtain ⟨r, hr, rfl⟩ := (Dialogue.yields_map _ _ _).mp hs'
    exact h.refresh hr
  | setDone id done =>
    obtain ⟨r, hr, rfl⟩ := (Dialogue.yields_map _ _ _).mp hs'
    exact h.setDone hr
  | toggleDone id =>
    obtain ⟨r, hr, rfl⟩ := (Dialogue.yields_map _ _ _).mp hs'
    exact h.toggleDone hr
  | resize size => cases hs'; exact h.resize size
  | fit => cases hs'; exact h.showing _
  | zoomIn => cases hs'; exact h.showing _
  | zoomOut => cases hs'; exact h.showing _
  | input event => cases hs'; exact h.input event
  | tick => cases hs'; exact h.tick
  | setClustering enabled => cases hs'; exact h.withSettings _
  | clickCluster key => cases hs'; exact h.clickCluster key
  | selectMarker id => cases hs'; exact h.selectMarker id
  | generateRoute => cases hs'; exact h.generateRoute
  | next => cases hs'; exact h.next
  | prev => cases hs'; exact h.prev
  | goTo index => cases hs'; exact h.goTo index
  | recenter => cases hs'; exact h.withViewport _
  | clearRoute => cases hs'; exact h.clearRoute

end

/-- Every run keeps a session sound. -/
theorem Reachable.sound {settings : Settings α} {s : Session α}
    (h : Reachable MarkerFilter.Faithful settings s) : s.Sound := by
  induction h with
  | new => exact sound_new settings
  | step op hs h ih => exact ih.perform h

/-- What a sound session shows of its route is the whole route. -/
theorem Sound.steps_eq_zipIdx {s : Session α} (h : s.Sound) {r : Route α}
    (hr : s.walk.route = some r) :
    s.routeView.steps.map (fun step => (step.id, step.index)) = r.order.zipIdx := by
  have horder : s.walk.order = r.order := by simp [Walk.order, hr]
  have hsteps : s.routeView.steps = Walk.stepViews s.markers r := by
    simp [routeView, Walk.view, hr]
  rw [hsteps]
  exact Walk.stepViews_eq_zipIdx h.nodup fun id hid => h.walk.known id (horder ▸ hid)

/-- What holds of every session that a run leads to: (a) the selection is a marker that lies on
the map; (b) so is every step of the route, no two are the same, and all of them are shown, each
with its index; (c) the current step is in range; (d) a route whose start is fixed begins with
it; (e) without metadata there is nothing to show and nothing to wait for; (f) the filter and the
markers are those of the map that is selected. -/
theorem Reachable.consistent {settings : Settings α} {s : Session α}
    (h : Reachable MarkerFilter.Faithful settings s) :
    (∀ id, s.selected = some id → ∃ m ∈ s.markers, m.id = id ∧ m.isPlaced = true) ∧
    (∀ r, s.walk.route = some r →
      r.order.Nodup ∧ (∀ id ∈ r.order, ∃ m ∈ s.markers, m.id = id ∧ m.isPlaced = true) ∧
        s.routeView.steps.map (·.id) = r.order ∧
        s.routeView.steps.map (·.index) = List.range r.order.length) ∧
    (if s.walk.order = [] then s.walk.current = 0 else s.walk.current < s.walk.order.length) ∧
    (∀ r, s.walk.route = some r → r.fixedStart = true →
      ∃ id, r.startId = some id ∧ r.order[0]? = some id) ∧
    (s.metadata = none → s.markers = [] ∧ s.walk = Walk.empty ∧ s.selected = none ∧
      s.drag = DragState.idle ∧ s.needsFit = false) ∧
    (∀ map, s.map = some map → s.filter.map = some map ∧ ∀ m ∈ s.markers, m.map = map) := by
  have hs : s.Sound := h.sound
  refine ⟨?_, ?_, ?_, ?_, hs.blank, hs.onMap⟩
  · intro id hid
    exact Walk.knows_iff.mp (hs.selected id hid)
  · -- Every step of the route is known, hence placed and shown.
    intro r hr
    have horder : s.walk.order = r.order := by simp [Walk.order, hr]
    -- The steps that are shown are the ids of the order, paired with their places.
    have hsteps := hs.steps_eq_zipIdx hr
    refine ⟨horder ▸ hs.walk.nodup, ?_, ?_, ?_⟩
    · intro id hid
      exact Walk.knows_iff.mp (hs.walk.known id (horder ▸ hid))
    · have hids := congrArg (List.map Prod.fst) hsteps
      rwa [List.map_map, List.zipIdx_map_fst] at hids
    · have hindices := congrArg (List.map Prod.snd) hsteps
      rwa [List.map_map, List.zipIdx_map_snd, ← List.range_eq_range'] at hindices
  · by_cases hnil : s.walk.order = []
    · rw [if_pos hnil]
      exact hs.walk.current_eq_zero hnil
    · rw [if_neg hnil]
      exact hs.walk.current_lt hnil
  · intro r hr hfixed
    rw [← List.head?_eq_getElem?]
    exact hs.walk.fixedStart_head r hr hfixed

/-- A map with one chest on it is selected, after a first try at which the store was down. Then
the chest is selected, and a route is made from it. -/
theorem consistent_after_route :
    ∃ s : Session Float, Reachable MarkerFilter.Faithful Settings.standard s ∧
      s.selected = some "a" ∧ s.routeView.steps.map (·.id) = ["a"] := by
  let chest : Marker Float :=
    ⟨"a", .cube, none, "Poeta", none, "Chest", none, some 1, some 2, none, false⟩
  let poeta := MapMeta.ofTiles "Poeta" 0 1024 1024 1 1
  let s₀ : Session Float := new Settings.standard
  let s₁ := (s₀.cleared "Poeta").failed .unavailable
  let s₂ := (({ s₁.cleared "Poeta" with metadata := some poeta } : Session Float).relisted
    [chest]).fittedOrDue poeta
  let s₃ := (s₂.selectMarker (some "a")).1
  let s₄ := s₃.generateRoute.1
  have h₁ : Reachable MarkerFilter.Faithful Settings.standard s₁ :=
    .step (.selectMap "Poeta") .new ⟨.error .unavailable, rfl⟩
  -- The one marker lies on the map that the filter asks for.
  have hlisting : MarkerFilter.Faithful { s₁.filter with map := some "Poeta" } [chest] :=
    ⟨by simp, by simp [chest]⟩
  have h₂ : Reachable MarkerFilter.Faithful Settings.standard s₂ :=
    .step (.selectMap "Poeta") h₁
      ⟨.ok [poeta], .ok [chest], fun ms hms => by cases hms; exact hlisting, rfl⟩
  have h₃ : Reachable MarkerFilter.Faithful Settings.standard s₃ :=
    .step (.selectMarker (some "a")) h₂ rfl
  have h₄ : Reachable MarkerFilter.Faithful Settings.standard s₄ := .step .generateRoute h₃ rfl
  have hselected : s₄.selected = some "a" := by decide +kernel
  have hroute : s₄.walk.order = ["a"] := by decide +kernel
  have hsome : s₄.walk.route.isSome = true := by decide +kernel
  obtain ⟨r, hr⟩ := Option.isSome_iff_exists.mp hsome
  have hsteps := (h₄.consistent.2.1 r hr).2.2.1
  refine ⟨s₄, h₄, hselected, ?_⟩
  rw [hsteps, ← hroute]
  simp [Walk.order, hr]

end MarkerAtlas.Session
