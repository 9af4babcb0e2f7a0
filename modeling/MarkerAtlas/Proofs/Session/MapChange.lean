import MarkerAtlas.Proofs.Session.History

/-!
# A change of the map starts over

A session that goes to another map keeps its settings, the size of its screen and its filter but
for the map, and nothing else: it goes on as a new session would. So two sessions that agree on
these cannot be told apart after the same change of the map, however it ends and whatever is done
next, and nothing of the maps before can come back.
-/

namespace MarkerAtlas.Session

variable {α : Type} [Scalar α]

/-- A new session for a map, with the settings, the screen and the filter of this one. -/
def renewed (s : Session α) (map : String) : Session α :=
  { new s.settings with
    map := some map
    filter := { s.filter with map := some map }
    viewport := { Viewport.new s.settings.viewport with size := s.viewport.size } }

/-! ## What a change of the map forgets -/

section
variable {listing : MarkerFilter → List (Marker α) → Prop} {settings : Settings α} {s : Session α}

/-- The settings of the view are those of the session, as they were from the beginning. -/
theorem Reachable.viewport_settings (h : Reachable listing settings s) :
    s.viewport.settings = s.settings.viewport := by
  refine h.invariant (P := fun s => s.viewport.settings = s.settings.viewport)
    rfl fun {s op r} ih hr => ?_
  -- The view is moved, scaled or resized, but where it takes its settings from never changes.
  cases hr with
  | moved v drag walk hop hlists hscreen => exact hscreen.settings.trans ih
  | fitted hm => exact ih
  | resized size =>
    obtain ⟨v, due, heq, hv⟩ := s.resize_eq size
    rw [heq]
    exact hv.trans ih
  | clustered enabled => exact ih
  | selected hid => exact ih
  | failed why hop => exact ih
  | relisted hop hlists hsome hms => exact ih
  | filterOnly f hmap => exact ih
  | filterUnlisted f message e => exact ih
  | filterListed f hmap hms => exact ih
  | mapUnlisted map metadata message e hknown => exact ih
  | @mapListed map m ms hname hms =>
    obtain ⟨v, due, heq, hv⟩ :=
      (({ s.cleared map with metadata := some m } : Session α).relisted ms).fittedOrDue_eq m
    simp only [heq]
    exact hv.trans ih

/-- The session from which a change of the map goes on is as new. -/
theorem Reachable.cleared_eq_renewed (h : Reachable listing settings s) (map : String) :
    s.cleared map = s.renewed map := by
  have hreset : s.viewport.reset =
      { Viewport.new s.settings.viewport with size := s.viewport.size } := by
    rw [← h.viewport_settings]
    rfl
  unfold cleared
  rw [hreset]
  rfl

/-- A new session needs nothing of the old one but its settings, screen and filter. -/
theorem renewed_congr {t : Session α} (hsettings : s.settings = t.settings)
    (hsize : s.viewport.size = t.viewport.size)
    (hfilter : { s.filter with map := none } = { t.filter with map := none }) (map : String) :
    s.renewed map = t.renewed map := by
  have hfilter' : { s.filter with map := some map } = { t.filter with map := some map } :=
    congrArg (fun f : MarkerFilter => { f with map := some map }) hfilter
  unfold renewed
  rw [hsettings, hsize, hfilter']

/-- How a change of the map ends: with the maps not listed, with a map that is not among them, with
its markers not listed, or with the map shown. What the session holds then is new: none of it is
taken from the session before but the settings, the screen and the filter. -/
inductive Renewal (s : Session α) (map : String) : After α Unit → Prop
  | mapsNotListed (why : StoreFailure) :
      Renewal s map ({ s.renewed map with pageError := some why.fullMessage }, .error (.store why))
  | notAMap :
      Renewal s map ({ s.renewed map with pageError := some (SessionError.noMapMeta map).message },
        .error (.noMapMeta map))
  | markersNotListed (m : MapMeta) (hm : m.name = map) (why : StoreFailure) :
      Renewal s map
        ({ s.renewed map with metadata := some m, pageError := some why.fullMessage },
          .error (.store why))
  | shown (m : MapMeta) (hm : m.name = map) (markers : List (Marker α)) :
      Renewal s map
        (({ s.renewed map with metadata := some m, markers := markers } : Session α).fittedOrDue m,
          .ok ())

theorem Reachable.renewal (h : Reachable listing settings s) {map : String} {r : After α Unit}
    (hr : (s.selectMap map).Yields (fun _ _ => True) r) : Renewal s map r := by
  have hnew := h.cleared_eq_renewed map
  obtain ⟨why, rfl⟩ | rfl | ⟨m, hm, ⟨why, rfl⟩ | ⟨ms, -, rfl⟩⟩ := selectMap_cases hr
  · rw [hnew]
    exact .mapsNotListed why
  · rw [hnew]
    exact .notAMap
  · rw [hnew]
    exact .markersNotListed m hm why
  · rw [hnew]
    exact .shown m hm ms

end

/-! ## Two runs -/

/-- **A change of the map forgets everything about the map before.** Two sessions, each after a run
of its own, that have the same settings, screens of the same size and the same filter but for its
map ask the store the same and come to the same result and the same session, in every field,
whatever the store answers; and so they do with everything that is done after it. What either
session holds afterwards is new. -/
theorem map_change_forgets {listing₁ listing₂ : MarkerFilter → List (Marker α) → Prop}
    {settings₁ settings₂ : Settings α} {s t : Session α}
    (hs : Reachable listing₁ settings₁ s) (ht : Reachable listing₂ settings₂ t)
    (hsettings : s.settings = t.settings) (hsize : s.viewport.size = t.viewport.size)
    (hfilter : { s.filter with map := none } = { t.filter with map := none }) (map : String) :
    s.selectMap map = t.selectMap map ∧
      (∀ ops, s.attemptAll (.selectMap map :: ops) = t.attemptAll (.selectMap map :: ops)) ∧
      ∀ r, (s.selectMap map).Yields (fun _ _ => True) r → Renewal s map r := by
  -- Both sessions are as good as new before the store is asked for anything.
  have hcleared : s.cleared map = t.cleared map := by
    calc s.cleared map = s.renewed map := hs.cleared_eq_renewed map
      _ = t.renewed map := renewed_congr hsettings hsize hfilter map
      _ = t.cleared map := (ht.cleared_eq_renewed map).symm
  have hselect : s.selectMap map = t.selectMap map := by
    unfold selectMap
    rw [hcleared]
  refine ⟨hselect, fun ops => ?_, fun r hr => hs.renewal hr⟩
  simp only [attemptAll, attempt, hselect]

/-- One session has a route on a map, which it reached after a first try that failed; the other one
has done nothing but switch clusters off, as the first one did. A change to a further map makes
them the same. -/
theorem map_change_after_route :
    ∃ s t : Session Float, s.walk.order = ["a"] ∧ s.selected = some "a" ∧ t.map = none ∧
      s.selectMap "Heiron" = t.selectMap "Heiron" := by
  let t : Session Float := (new Settings.standard).setClustering false
  let s₁ := (t.cleared "Poeta").failed .unavailable
  let s₂ : Session Float := { s₁.atPoeta [chest] with selected := some "a" }
  have ht : Reachable (fun _ _ => True) Settings.standard t :=
    .step (.setClustering false) .new rfl
  have h₁ : Reachable (fun _ _ => True) Settings.standard s₁ :=
    .step (.selectMap "Poeta") ht ⟨.error .unavailable, rfl⟩
  have hempty : s₁.viewport.size.isEmpty = true := by decide +kernel
  have h₂ : Reachable (fun _ _ => True) Settings.standard s₂ :=
    have hmap : Reachable (fun _ _ => True) Settings.standard (s₁.atPoeta [chest]) :=
      h₁.atPoeta hempty trivial
    .step (.selectMarker (some "a")) hmap rfl
  have h₃ : Reachable (fun _ _ => True) Settings.standard s₂.generateRoute.1 :=
    .step .generateRoute h₂ rfl
  have hmade : s₂.generateRoute = (s₂.generateRoute.1, .ok ()) := by
    have hok : s₂.generateRoute.2 = .ok () := by decide +kernel
    rw [← hok]
  have horder : s₂.generateRoute.1.walk.order = ["a"] := by decide +kernel
  have hkept : s₂.generateRoute.1.selected = some "a" ∧
      s₂.generateRoute.1.viewport.size = t.viewport.size := by
    -- A new route changes nothing of the view but its pan.
    obtain ⟨m, w, v, -, hgenerate, hs'⟩ := generateRoute_outcome.ok hmade
    obtain ⟨-, -, -, -, -, hpanned⟩ := Walk.generate_ok hgenerate
    rw [hs']
    exact ⟨rfl, hpanned.size⟩
  exact ⟨_, t, horder, hkept.1, rfl, (map_change_forgets h₃ ht rfl hkept.2 rfl "Heiron").1⟩

end MarkerAtlas.Session
