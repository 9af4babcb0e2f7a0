import MarkerAtlas.Proofs.Route.Walk
import MarkerAtlas.Proofs.Store.Answers
import MarkerAtlas.Session.Basic

/-!
# Runs of a session

A run starts with a new session and does one operation after another. Every operation may meet
another store: what is said of all runs holds whatever the store answers and whenever it fails.
This module says once what each operation that talks to the store can come to; the others are
functions on sessions already.
-/

namespace MarkerAtlas.Session

variable {α : Type}

/-! ## Operations -/

/-- What can be done with a session. -/
inductive Operation (α : Type) where
  | selectMap (map : String)
  | setFilter (filter : MarkerFilter)
  | refresh
  | setDone (id : String) (done : Bool)
  | toggleDone (id : String)
  | resize (size : Size α)
  | fit
  | zoomIn
  | zoomOut
  | input (event : InputEvent α)
  | tick
  | setClustering (enabled : Bool)
  | clickCluster (key : String)
  | selectMarker (id : Option String)
  | generateRoute
  | next
  | prev
  | goTo (index : Nat)
  | recenter
  | clearRoute

variable [Scalar α]

/-- The session after an operation. -/
def perform (s : Session α) : Operation α → Dialogue α (Session α)
  | .selectMap map => (s.selectMap map).map (·.1)
  | .setFilter filter => (s.setFilter filter).map (·.1)
  | .refresh => s.refresh.map (·.1)
  | .setDone id done => (s.setDone id done).map (·.1)
  | .toggleDone id => (s.toggleDone id).map (·.1)
  | .resize size => .done (s.resize size)
  | .fit => .done s.fit.1
  | .zoomIn => .done s.zoomIn.1
  | .zoomOut => .done s.zoomOut.1
  | .input event => .done (s.input event).1
  | .tick => .done s.tick.1
  | .setClustering enabled => .done (s.setClustering enabled)
  | .clickCluster key => .done (s.clickCluster key).1
  | .selectMarker id => .done (s.selectMarker id).1
  | .generateRoute => .done s.generateRoute.1
  | .next => .done s.next.1
  | .prev => .done s.prev.1
  | .goTo index => .done (s.goTo index).1
  | .recenter => .done s.recenter.1
  | .clearRoute => .done s.clearRoute

/-- The sessions that runs lead to, over stores whose listings are as `listing` says. -/
inductive Reachable (listing : MarkerFilter → List (Marker α) → Prop) (settings : Settings α) :
    Session α → Prop
  | new : Reachable listing settings (Session.new settings)
  | step {s s' : Session α} (op : Operation α) (hs : Reachable listing settings s)
      (h : (s.perform op).Yields listing s') : Reachable listing settings s'

/-- A run on a store is one of these runs, if the store lists as it should in every state. -/
theorem Reachable.step_run {σ : Type} {listing : MarkerFilter → List (Marker α) → Prop}
    {settings : Settings α} {s : Session α} (hs : Reachable listing settings s) (op : Operation α)
    (store : Store σ α) (h : ∀ state f ms, store.markers state f = .ok ms → listing f ms)
    (state : σ) : Reachable listing settings ((s.perform op).run store state).2 :=
  .step op hs (Dialogue.yields_run store (s.perform op) state h)

/-! ## What operations that do without the store can come to -/

/-- An operation that does without the store can be refused, for a reason that is not the store's,
and leave the session as it was; or it succeeds, and `next` holds of the session afterwards. -/
def Outcome (s : Session α) (next : Session α → Prop) (r : After α Unit) : Prop :=
  (∃ e, r = (s, .error e) ∧ ∀ why, e ≠ .store why) ∨ ∃ s', r = (s', .ok ()) ∧ next s'

section
variable {s s' : Session α} {next : Session α → Prop} {r : After α Unit}

omit [Scalar α] in
/-- What holds of the session and of those that success leads to holds afterwards in any case. -/
theorem Outcome.fst {P : Session α → Prop} (h : s.Outcome next r) (hs : P s)
    (hnext : ∀ s', next s' → P s') : P r.1 := by
  obtain ⟨e, rfl, -⟩ | ⟨s', rfl, hs'⟩ := h
  · exact hs
  · exact hnext s' hs'

omit [Scalar α] in
theorem Outcome.error {e : SessionError} (h : s.Outcome next r) (he : r = (s', .error e)) :
    s' = s ∧ ∀ why, e ≠ .store why := by
  obtain ⟨e', rfl, hwhy⟩ | ⟨s'', rfl, -⟩ := h
  · cases he
    exact ⟨rfl, hwhy⟩
  · cases he

omit [Scalar α] in
/-- The store is not blamed. -/
theorem Outcome.ne_store (h : s.Outcome next r) (why : StoreFailure) :
    r.2 ≠ .error (.store why) := by
  obtain ⟨e, rfl, hwhy⟩ | ⟨s', rfl, -⟩ := h
  · exact fun he => hwhy why (Except.error.inj he)
  · exact nofun

omit [Scalar α] in
theorem Outcome.ok (h : s.Outcome next r) (hok : r = (s', .ok ())) : next s' := by
  obtain ⟨e, rfl, -⟩ | ⟨s'', rfl, hs''⟩ := h
  · cases hok
  · cases hok
    exact hs''

end

section
variable {s s' : Session α} {why : StoreFailure}

omit [Scalar α] in
theorem lacksMap_ne_store : s.lacksMap ≠ .store why := by
  unfold lacksMap
  split <;> simp

omit [Scalar α] in
theorem requireMap_of_none (h : s.metadata = none) : s.requireMap = .error s.lacksMap := by
  rw [requireMap, h]

omit [Scalar α] in
theorem requireMap_of_some {m : MapMeta} (h : s.metadata = some m) : s.requireMap = .ok m := by
  rw [requireMap, h]

omit [Scalar α] in
theorem marker_ok {id : String} {m : Marker α} (h : s.marker id = .ok m) :
    s.markers.find? (·.id == id) = some m := by
  unfold marker at h
  cases hm : s.markers.find? (·.id == id) with
  | none => rw [hm] at h; cases h
  | some m' => rw [hm] at h; cases h; rfl

omit [Scalar α] in
theorem marker_error {id : String} {e : SessionError} (h : s.marker id = .error e) :
    e = .unknownMarker id := by
  unfold marker at h
  cases hm : s.markers.find? (·.id == id) with
  | none => rw [hm] at h; cases h; rfl
  | some m => rw [hm] at h; cases h

omit [Scalar α] in
/-- Another part of the map is shown if there is a map. -/
theorem showing_outcome (part : MapMeta → Viewport α) :
    s.Outcome (fun s' => ∃ m, s.metadata = some m ∧ s' = { s with viewport := part m })
      (s.showing part) := by
  obtain hm | ⟨m, hm⟩ := Option.eq_none_or_eq_some s.metadata
  · rw [showing, requireMap_of_none hm]
    exact .inl ⟨_, rfl, fun _ => lacksMap_ne_store⟩
  · rw [showing, requireMap_of_some hm]
    exact .inr ⟨_, rfl, m, hm, rfl⟩

/-- Only a listed marker with a position is selected. -/
theorem selectMarker_outcome (id : Option String) :
    s.Outcome (fun s' => s' = { s with selected := id } ∧
        ∀ id', id = some id' → ∃ m, s.markers.find? (·.id == id') = some m ∧ m.isPlaced = true)
      (s.selectMarker id) := by
  cases id with
  | none => exact .inr ⟨_, rfl, rfl, fun id' hid => by cases hid⟩
  | some id =>
    unfold selectMarker
    cases hm : s.marker id with
    | error e =>
      obtain rfl := marker_error hm
      exact .inl ⟨.unknownMarker id, by simp only [hm], fun _ => nofun⟩
    | ok m =>
      -- The marker is there but may have no position to be drawn at.
      by_cases hplaced : m.isPlaced = true
      · refine .inr ⟨{ s with selected := some id }, by simp only [hm, if_pos hplaced], rfl, ?_⟩
        rintro id' ⟨⟩
        exact ⟨m, marker_ok hm, hplaced⟩
      · exact .inl ⟨.missingCoordinates id, by simp only [hm, if_neg hplaced], fun _ => nofun⟩

/-- A click on a cluster that is drawn zooms the view into it. -/
theorem clickCluster_outcome (key : String) :
    s.Outcome (fun s' => ∃ c ∈ s.clustering.2.clusters, CellKey.ofText? key = some c.key ∧
        s' = { s with viewport :=
          s.viewport.centerOnAtScale c.centroid s.settings.viewport.clusterZoom })
      (s.clickCluster key) := by
  unfold clickCluster
  -- The key may be no key at all, or that of a cell without a cluster.
  cases hcell : CellKey.ofText? key with
  | none => exact .inl ⟨.unknownCluster key, rfl, fun _ => nofun⟩
  | some cell =>
    cases hfound : s.clustering.2.clusters.find? (·.key = cell) with
    | none => exact .inl ⟨.unknownCluster key, by simp only [hfound], fun _ => nofun⟩
    | some c =>
      have hkey : c.key = cell := by simpa using List.find?_some hfound
      exact .inr ⟨_, by simp only [hfound], c, List.mem_of_find?_eq_some hfound,
        congrArg some hkey.symm, rfl⟩

/-- A route is made only with metadata, and changes the walk and the view. -/
theorem generateRoute_outcome :
    s.Outcome (fun s' => ∃ m w v, s.metadata = some m ∧
        s.walk.generate s.settings.route s.selectedMarker s.markers s.viewport = (w, v, .ok ()) ∧
        s' = { s with walk := w, viewport := v })
      s.generateRoute := by
  obtain hm | ⟨m, hm⟩ := Option.eq_none_or_eq_some s.metadata
  · rw [generateRoute, requireMap_of_none hm]
    exact .inl ⟨_, rfl, fun _ => lacksMap_ne_store⟩
  · rw [generateRoute, requireMap_of_some hm]
    rcases hmade : s.walk.generate s.settings.route s.selectedMarker s.markers s.viewport with
      ⟨w, v, made⟩
    cases made with
    | error e =>
      -- The walk and the view are put back into the session, and they are the ones it had.
      obtain ⟨rfl, rfl⟩ := Walk.generate_error hmade
      exact .inl ⟨.ofRoute e, rfl, fun why => by cases e <;> simp [SessionError.ofRoute]⟩
    | ok _ => exact .inr ⟨_, rfl, m, w, v, hm, rfl, rfl⟩

end

/-! ## What talking to the store can come to -/

variable {listing : MarkerFilter → List (Marker α) → Prop} {s : Session α}

/-- A refresh without metadata is refused; with metadata the listing fails or is taken over. -/
theorem refresh_cases {r : After α Unit} (h : s.refresh.Yields listing r) :
    (s.metadata = none ∧ r = (s, .error s.lacksMap)) ∨
      (s.metadata.isSome = true ∧
        ((∃ why, r = (s.failed why, .error (.store why))) ∨
          ∃ ms, listing s.filter ms ∧ r = (s.relisted ms, .ok ()))) := by
  unfold refresh requireMap at h
  cases hm : s.metadata with
  | none =>
    rw [hm] at h
    exact .inl ⟨rfl, h⟩
  | some m =>
    rw [hm] at h
    obtain ⟨answer, hlisting, h⟩ := h
    refine .inr ⟨rfl, ?_⟩
    -- The listing is taken over as a whole, or not at all.
    cases answer with
    | error why => exact .inl ⟨why, h⟩
    | ok ms => exact .inr ⟨ms, hlisting ms rfl, h⟩

/-- A change of the map first forgets the map before. Then the maps cannot be listed, the new one
is not among them, its markers cannot be listed, or the map is shown. -/
theorem selectMap_cases {map : String} {r : After α Unit}
    (h : (s.selectMap map).Yields listing r) :
    (∃ why, r = ((s.cleared map).failed why, .error (.store why))) ∨
      r = ({ s.cleared map with pageError := some (SessionError.noMapMeta map).message },
        .error (.noMapMeta map)) ∨
      ∃ m : MapMeta, m.name = map ∧
        ((∃ why, r = (({ s.cleared map with metadata := some m } : Session α).failed why,
            .error (.store why))) ∨
          ∃ ms, listing { s.filter with map := some map } ms ∧
            r =
              ((({ s.cleared map with metadata := some m } : Session α).relisted ms).fittedOrDue m,
                .ok ())) := by
  obtain ⟨answer, h⟩ := h
  -- The maps are listed after the old one is forgotten, so that a failure leaves a map without
  -- metadata.
  cases answer with
  | error why => exact .inl ⟨why, h⟩
  | ok maps =>
    refine .inr ?_
    cases hfind : maps.find? (·.name == map) with
    | none =>
      simp only [hfind] at h
      exact .inl h
    | some m =>
      simp only [hfind, Dialogue.yields_map] at h
      obtain ⟨r', hr', rfl⟩ := h
      have hname : m.name = map := by simpa using List.find?_some hfind
      refine .inr ⟨m, hname, ?_⟩
      -- The map has been entered, so that the refresh is not refused for want of metadata.
      obtain ⟨hnone, -⟩ | ⟨-, ⟨why, rfl⟩ | ⟨ms, hms, rfl⟩⟩ := refresh_cases hr'
      · cases hnone
      · exact .inl ⟨why, rfl⟩
      · exact .inr ⟨ms, hms, rfl⟩

/-- The session with a filter for the map that is selected. -/
def refiltered (s : Session α) (f : MarkerFilter) : Session α :=
  { s with filter := { f with map := s.map } }

theorem setFilter_cases {f : MarkerFilter} {r : After α Unit}
    (h : (s.setFilter f).Yields listing r) :
    (s.map = none ∧ r = (s.refiltered f, .ok ())) ∨
      (s.map.isSome = true ∧ (s.refiltered f).refresh.Yields listing r) := by
  unfold setFilter at h
  cases hm : s.map with
  | none =>
    simp only [hm] at h
    exact .inl ⟨rfl, by simpa [refiltered, hm] using h⟩
  | some map =>
    simp only [hm] at h
    exact .inr ⟨rfl, by simpa [refiltered, hm] using h⟩

/-- A done flag is set only on a listed marker; when it was written the markers are listed anew. -/
theorem setDone_cases {id : String} {done : Bool} {r : After α Unit}
    (h : (s.setDone id done).Yields listing r) :
    (∃ e, s.marker id = .error e ∧ r = (s, .error e)) ∨
      (∃ why, r = (s.failed why, .error (.store why))) ∨ s.refresh.Yields listing r := by
  unfold setDone at h
  cases hm : s.marker id with
  | error e =>
    rw [hm] at h
    exact .inl ⟨e, rfl, h⟩
  | ok m =>
    rw [hm] at h
    obtain ⟨answer, h⟩ := h
    cases answer with
    | error why => exact .inr (.inl ⟨why, h⟩)
    | ok _ => exact .inr (.inr h)

theorem toggleDone_cases {id : String} {r : After α Bool}
    (h : (s.toggleDone id).Yields listing r) :
    (∃ e, s.marker id = .error e ∧ r = (s, .error e)) ∨
      ∃ (m : Marker α) (r' : After α Unit), s.marker id = .ok m ∧
        (s.setDone id (!m.done)).Yields listing r' ∧ r = (r'.1, r'.2.map fun _ => !m.done) := by
  unfold toggleDone at h
  cases hm : s.marker id with
  | error e =>
    rw [hm] at h
    exact .inl ⟨e, rfl, h⟩
  | ok m =>
    rw [hm] at h
    simp only [Dialogue.yields_map] at h
    obtain ⟨r', hr', rfl⟩ := h
    refine .inr ⟨m, r', rfl, hr', ?_⟩
    obtain ⟨s', result⟩ := r'
    cases result <;> rfl

end MarkerAtlas.Session
