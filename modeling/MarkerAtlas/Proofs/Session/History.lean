import MarkerAtlas.Proofs.Session.Atomic
import MarkerAtlas.Proofs.Session.Listing
import MarkerAtlas.Scalar.Double

/-!
# Histories of a session

`ComesTo` has one case for each way in which an operation can change a session, whatever the store
does. What every run keeps is shown by going through these cases, and `Reachable.invariant` does
the induction over the run. A `History` of a session is a run with its events: what was done, and
what it came to. It serves where the present state of a session does not tell enough of its past.
-/

namespace MarkerAtlas.Session

variable {α : Type}

/-! ## What an operation comes to -/

/-- Does the operation list markers when it succeeds? -/
def Operation.lists : Operation α → Bool
  | .selectMap _ => true
  | .setFilter _ => true
  | .refresh => true
  | .setDone _ _ => true
  | .toggleDone _ => true
  | _ => false

variable [Scalar α]

/-- What an operation can make of a session, over stores whose listings are as `listing` says. -/
inductive ComesTo (listing : MarkerFilter → List (Marker α) → Prop) (s : Session α) :
    Operation α → After α Unit → Prop
  /-- The view, the drag or the walk moved, or nothing did; nothing was listed. -/
  | moved {op : Operation α} {result : Except SessionError Unit} (v : Viewport α)
      (drag : DragState α) (walk : Walk α) (hop : op.retargets = false)
      (hlists : op.lists = false ∨ result.isOk = false) (hscreen : s.viewport.SameScreen v) :
      ComesTo listing s op ({ s with viewport := v, drag := drag, walk := walk }, result)
  | fitted {m : MapMeta} (hm : s.metadata = some m) : ComesTo listing s .fit (s.fitted m, .ok ())
  | resized (size : Size α) : ComesTo listing s (.resize size) (s.resize size, .ok ())
  | clustered (enabled : Bool) :
      ComesTo listing s (.setClustering enabled) (s.setClustering enabled, .ok ())
  /-- Only a marker that lies on the map is selected. -/
  | selected {id : Option String}
      (hid : ∀ id', id = some id' → Walk.knows s.markers id' = true) :
      ComesTo listing s (.selectMarker id) ({ s with selected := id }, .ok ())
  | failed {op : Operation α} (why : StoreFailure) (hop : op.retargets = false) :
      ComesTo listing s op (s.failed why, .error (.store why))
  | relisted {op : Operation α} {ms : List (Marker α)} (hop : op.retargets = false)
      (hlists : op.lists = true) (hsome : s.metadata.isSome = true) (hms : listing s.filter ms) :
      ComesTo listing s op (s.relisted ms, .ok ())
  /-- Without a map there is nothing to list under the new filter. -/
  | filterOnly (f : MarkerFilter) (hmap : s.map = none) :
      ComesTo listing s (.setFilter f) (s.refiltered f, .ok ())
  /-- The filter is the new one, though nothing was listed under it. -/
  | filterUnlisted (f : MarkerFilter) (message : Option String) (e : SessionError) :
      ComesTo listing s (.setFilter f) ({ s.refiltered f with pageError := message }, .error e)
  | filterListed (f : MarkerFilter) {ms : List (Marker α)} (hmap : s.map.isSome = true)
      (hms : listing { f with map := s.map } ms) :
      ComesTo listing s (.setFilter f) ((s.refiltered f).relisted ms, .ok ())
  /-- Nothing of the map before is left. The new one is known if only its markers were not
  listed. -/
  | mapUnlisted (map : String) (metadata : Option MapMeta) (message : Option String)
      (e : SessionError)
      (hknown : ∀ m, metadata = some m → m.name = map ∧ ∃ why, e = .store why) :
      ComesTo listing s (.selectMap map)
        ({ s.cleared map with metadata := metadata, pageError := message }, .error e)
  | mapListed (map : String) {m : MapMeta} {ms : List (Marker α)} (hname : m.name = map)
      (hms : listing { s.filter with map := some map } ms) :
      ComesTo listing s (.selectMap map)
        ((({ s.cleared map with metadata := some m } : Session α).relisted ms).fittedOrDue m,
          .ok ())

section
variable {listing : MarkerFilter → List (Marker α) → Prop} {s : Session α} {op : Operation α}

/-- What is refused leaves the session as it was. -/
theorem comesTo_refused (hop : op.retargets = false) (e : SessionError) :
    ComesTo listing s op (s, .error e) :=
  .moved s.viewport s.drag s.walk hop (.inr rfl) (.refl _)

/-- An operation that does without the store is refused, or comes to what it succeeds with. -/
theorem Outcome.comesTo {next : Session α → Prop} {r : After α Unit} (h : s.Outcome next r)
    (hop : op.retargets = false) (hnext : ∀ s', next s' → ComesTo listing s op (s', .ok ())) :
    ComesTo listing s op r := by
  obtain ⟨e, rfl, -⟩ | ⟨s', rfl, hs'⟩ := h
  · exact comesTo_refused hop e
  · exact hnext s' hs'

theorem comesTo_showing {part : MapMeta → Viewport α} (hop : op.retargets = false)
    (hlists : op.lists = false) (hpart : ∀ m, s.viewport.SameScreen (part m)) :
    ComesTo listing s op (s.showing part) := by
  refine (showing_outcome part).comesTo hop ?_
  rintro s' ⟨m, -, rfl⟩
  exact .moved (part m) s.drag s.walk hop (.inl hlists) (hpart m)

theorem comesTo_refresh (hop : op.retargets = false) (hlists : op.lists = true)
    {r : After α Unit} (hr : s.refresh.Yields listing r) : ComesTo listing s op r := by
  obtain ⟨-, rfl⟩ | ⟨hsome, ⟨why, rfl⟩ | ⟨ms, hms, rfl⟩⟩ := refresh_cases hr
  · exact comesTo_refused hop _
  · exact .failed why hop
  · exact .relisted hop hlists hsome hms

theorem comesTo_setDone (hop : op.retargets = false) (hlists : op.lists = true) {id : String}
    {done : Bool} {r : After α Unit} (hr : (s.setDone id done).Yields listing r) :
    ComesTo listing s op r := by
  obtain ⟨e, -, rfl⟩ | ⟨why, rfl⟩ | hr := setDone_cases hr
  · exact comesTo_refused hop e
  · exact .failed why hop
  · exact comesTo_refresh hop hlists hr

theorem comesTo_toggleDone {id : String} {r : After α Bool}
    (hr : (s.toggleDone id).Yields listing r) :
    ComesTo listing s (.toggleDone id) (r.1, r.2.map fun _ => ()) := by
  obtain ⟨e, -, rfl⟩ | ⟨m, ⟨s', result⟩, -, hset, rfl⟩ := toggleDone_cases hr
  · exact comesTo_refused rfl e
  · have hcomes : ComesTo listing s (.toggleDone id) (s', result) :=
      comesTo_setDone rfl rfl hset
    cases result with
    | error e => exact hcomes
    | ok _ => exact hcomes

theorem comesTo_setFilter {f : MarkerFilter} {r : After α Unit}
    (hr : (s.setFilter f).Yields listing r) : ComesTo listing s (.setFilter f) r := by
  obtain ⟨hnone, rfl⟩ | ⟨hsome, hr⟩ := setFilter_cases hr
  · exact .filterOnly f hnone
  · obtain ⟨-, rfl⟩ | ⟨-, ⟨why, rfl⟩ | ⟨ms, hms, rfl⟩⟩ := refresh_cases hr
    · exact .filterUnlisted f s.pageError _
    · exact .filterUnlisted f _ _
    · exact .filterListed f hsome hms

theorem comesTo_selectMap {map : String} {r : After α Unit}
    (hr : (s.selectMap map).Yields listing r) : ComesTo listing s (.selectMap map) r := by
  obtain ⟨why, rfl⟩ | rfl | ⟨m, hname, ⟨why, rfl⟩ | ⟨ms, hms, rfl⟩⟩ := selectMap_cases hr
  · exact .mapUnlisted map none _ _ fun _ hm => by cases hm
  · exact .mapUnlisted map none _ _ fun _ hm => by cases hm
  · refine .mapUnlisted map (some m) _ _ fun m' hm => ?_
    cases hm
    exact ⟨hname, why, rfl⟩
  · exact .mapListed map hname hms

/-- Every operation comes to one of the cases. -/
theorem attempt_comesTo {r : After α Unit} (hr : (s.attempt op).Yields listing r) :
    ComesTo listing s op r := by
  -- One case per operation. Most of them move the view, the drag or the walk, and keep what is
  -- listed and the size of the screen.
  cases op with
  | selectMap map => exact comesTo_selectMap hr
  | setFilter filter => exact comesTo_setFilter hr
  | refresh => exact comesTo_refresh rfl rfl hr
  | setDone id done => exact comesTo_setDone rfl rfl hr
  | toggleDone id =>
    obtain ⟨r', hr', rfl⟩ := (Dialogue.yields_map _ _ _).mp hr
    exact comesTo_toggleDone hr'
  | resize size => cases hr; exact .resized size
  | fit =>
    cases hr
    refine (showing_outcome _).comesTo rfl ?_
    rintro s' ⟨m, hm, rfl⟩
    exact .fitted hm
  | zoomIn => cases hr; exact comesTo_showing rfl rfl fun _ => s.viewport.sameScreen_zoomIn
  | zoomOut => cases hr; exact comesTo_showing rfl rfl fun _ => s.viewport.sameScreen_zoomOut
  | input event =>
    cases hr
    unfold input
    split
    · exact .moved s.viewport s.drag s.walk rfl (.inl rfl) (.refl _)
    · exact .moved _ _ s.walk rfl (.inl rfl) (DragState.sameScreen_handle s.drag s.viewport event)
  | tick =>
    cases hr
    exact .moved _ _ s.walk rfl (.inl rfl) (s.drag.panned_tick s.viewport).toSameScreen
  | setClustering enabled => cases hr; exact .clustered enabled
  | clickCluster key =>
    cases hr
    refine (clickCluster_outcome key).comesTo rfl ?_
    rintro s' ⟨c, -, -, rfl⟩
    exact .moved _ s.drag s.walk rfl (.inl rfl) (s.viewport.sameScreen_centerOnAtScale _ _)
  | selectMarker id =>
    cases hr
    refine (selectMarker_outcome id).comesTo rfl ?_
    rintro s' ⟨rfl, hid⟩
    refine .selected fun id' hid' => ?_
    obtain ⟨m, hfind, hplaced⟩ := hid id' hid'
    have hm : m.id = id' := by simpa using List.find?_some hfind
    exact Walk.knows_iff.mpr ⟨m, List.mem_of_find?_eq_some hfind, hm, hplaced⟩
  | generateRoute =>
    cases hr
    refine generateRoute_outcome.comesTo rfl ?_
    rintro s' ⟨m, w, v, -, hgenerate, rfl⟩
    obtain ⟨-, -, -, -, -, hpanned⟩ := Walk.generate_ok hgenerate
    exact .moved v s.drag w rfl (.inl rfl) hpanned.toSameScreen
  | next =>
    cases hr
    exact .moved _ s.drag _ rfl (.inl rfl) (s.walk.panned_goTo _ s.markers s.viewport).toSameScreen
  | prev =>
    cases hr
    exact .moved _ s.drag _ rfl (.inl rfl) (s.walk.panned_prev s.markers s.viewport).toSameScreen
  | goTo index =>
    cases hr
    exact .moved _ s.drag _ rfl (.inl rfl) (s.walk.panned_goTo _ s.markers s.viewport).toSameScreen
  | recenter =>
    cases hr
    exact .moved _ s.drag s.walk rfl (.inl rfl)
      (s.walk.panned_recenter s.markers s.viewport).toSameScreen
  | clearRoute => cases hr; exact .moved s.viewport s.drag _ rfl (.inl rfl) (.refl _)

end

/-! ## Runs -/

section
variable {listing : MarkerFilter → List (Marker α) → Prop} {settings : Settings α} {s : Session α}

/-- What holds of a new session and is kept by every case holds of every session that a run leads
to. -/
theorem Reachable.invariant {P : Session α → Prop} (hnew : P (Session.new settings))
    (hstep : ∀ {s : Session α} {op : Operation α} {r : After α Unit},
      P s → ComesTo listing s op r → P r.1)
    (h : Reachable listing settings s) : P s := by
  induction h with
  | new => exact hnew
  | step op hs h ih =>
    rw [perform_eq_map_attempt] at h
    obtain ⟨r, hr, rfl⟩ := (Dialogue.yields_map _ _ _).mp h
    exact hstep ih (attempt_comesTo hr)

/-- As long as no map is selected there is no metadata, and nothing is listed. -/
theorem Reachable.unmapped (h : Reachable listing settings s) :
    s.map = none → s.metadata = none ∧ s.markers = [] := by
  refine h.invariant (P := fun s => s.map = none → s.metadata = none ∧ s.markers = [])
    (fun _ => ⟨rfl, rfl⟩) fun {s op r} ih hr => ?_
  -- Metadata and markers come with a map only; all other operations keep the three.
  cases hr with
  | moved v drag walk hop hlists hscreen => exact ih
  | fitted hm => exact ih
  | resized size =>
    have hsame := sameListing_resize s size
    rw [hsame.map, hsame.metadata, hsame.markers]
    exact ih
  | clustered enabled => exact ih
  | selected hid => exact ih
  | failed why hop => exact ih
  | relisted hop hlists hsome hms =>
    -- There is metadata, and so a map is selected.
    intro hnone
    have hmetadata := (ih hnone).1
    rw [hmetadata] at hsome
    cases hsome
  | filterOnly f hmap => exact ih
  | filterUnlisted f message e => exact ih
  | filterListed f hmap hms =>
    intro hnone
    have hnone : s.map = none := hnone
    rw [hnone] at hmap
    cases hmap
  | mapUnlisted map metadata message e hknown => exact fun hnone => by cases hnone
  | @mapListed map m ms hname hms =>
    rw [(sameListing_fittedOrDue _ m).map]
    exact fun hnone => by cases hnone

/-- Does the operations one after another: the session in the end, and what each of them came to. -/
def attemptAll (s : Session α) :
    List (Operation α) → Dialogue α (Session α × List (Except SessionError Unit))
  | [] => .done (s, [])
  | op :: ops => (s.attempt op).andThen fun r => (r.1.attemptAll ops).map fun out =>
      (out.1, r.2 :: out.2)

/-! ## Histories -/

/-- An operation that was done, and what it came to. -/
structure Event (α : Type) where
  before : Session α
  op : Operation α
  after : Session α
  result : Except SessionError Unit

omit [Scalar α] in
/-- Were markers listed? -/
def Event.lists (e : Event α) : Bool := e.op.lists && e.result.isOk

/-- A run with its events, the last one first. -/
inductive History (listing : MarkerFilter → List (Marker α) → Prop) (settings : Settings α) :
    List (Event α) → Session α → Prop
  | new : History listing settings [] (Session.new settings)
  | step {es : List (Event α)} {s s' : Session α} {op : Operation α}
      {result : Except SessionError Unit} (hs : History listing settings es s)
      (h : (s.attempt op).Yields listing (s', result)) :
      History listing settings (⟨s, op, s', result⟩ :: es) s'

theorem History.reachable {es : List (Event α)} (h : History listing settings es s) :
    Reachable listing settings s := by
  induction h with
  | new => exact .new
  | @step es s s' op result hs h ih =>
    refine ih.step op ?_
    rw [perform_eq_map_attempt]
    exact (Dialogue.yields_map _ _ _).mpr ⟨_, h, rfl⟩

/-- Every session that a run leads to has a history. -/
theorem Reachable.exists_history (h : Reachable listing settings s) :
    ∃ es, History listing settings es s := by
  induction h with
  | new => exact ⟨[], .new⟩
  | step op hs h ih =>
    obtain ⟨es, hes⟩ := ih
    rw [perform_eq_map_attempt] at h
    obtain ⟨r, hr, rfl⟩ := (Dialogue.yields_map _ _ _).mp h
    exact ⟨_, hes.step hr⟩

end

/-! ## A map with one chest -/

/-- A map of one tile. -/
def poeta : MapMeta := .ofTiles "Poeta" 0 1024 1024 1 1

/-- A chest on it. -/
def chest : Marker Float :=
  ⟨"a", .cube, none, "Poeta", none, "Chest", none, some 1, some 2, none, false⟩

/-- The session after a change to the map, if its screen has no size yet. -/
def atPoeta (s : Session α) (markers : List (Marker α)) : Session α :=
  { ({ s.cleared "Poeta" with metadata := some poeta } : Session α).relisted markers with
    needsFit := true }

section
variable {listing : MarkerFilter → List (Marker α) → Prop} {settings : Settings α}
  {s : Session α} {markers : List (Marker α)}

theorem selectMap_yields_atPoeta (hempty : s.viewport.size.isEmpty = true)
    (hlisting : listing { s.filter with map := some "Poeta" } markers) :
    (s.selectMap "Poeta").Yields listing (s.atPoeta markers, .ok ()) := by
  have hdue : (({ s.cleared "Poeta" with metadata := some poeta } : Session α).relisted
      markers).fittedOrDue poeta = s.atPoeta markers := if_pos hempty
  rw [← hdue]
  exact ⟨.ok [poeta], .ok markers, fun _ hms => by cases hms; exact hlisting, rfl⟩

theorem Reachable.atPoeta (h : Reachable listing settings s)
    (hempty : s.viewport.size.isEmpty = true)
    (hlisting : listing { s.filter with map := some "Poeta" } markers) :
    Reachable listing settings (s.atPoeta markers) :=
  .step (.selectMap "Poeta") h
    ((Dialogue.yields_map _ _ _).mpr ⟨_, selectMap_yields_atPoeta hempty hlisting, rfl⟩)

/-- The screen of a new session has no size. -/
theorem isEmpty_size_new {settings : Settings Float} :
    (new settings).viewport.size.isEmpty = true := by
  show (Size.zero : Size Float).isEmpty = true
  decide +kernel

end

end MarkerAtlas.Session
