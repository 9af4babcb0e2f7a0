import MarkerAtlas.Proofs.Scalar.Order
import MarkerAtlas.Proofs.Session.History

/-!
# Fitting the map that is selected

A map that is selected is fitted into the screen at once if the screen has room, and as soon as it
has otherwise. There is one exception: if the markers of the map cannot be listed when it is
selected, then the map is never fitted by itself, even when a later listing shows them.
-/

namespace MarkerAtlas

/-! ## Lengths of the screen -/

namespace Viewport

theorem screenLength_eq_or (x : Float) : screenLength x = x ∨ screenLength x = 0 := by
  unfold screenLength
  split
  · exact Double.greater_eq_or x 0
  · exact .inr rfl

theorem screenLength_screenLength (x : Float) : screenLength (screenLength x) = screenLength x := by
  have hzero : screenLength (0 : Float) = 0 := (screenLength_eq_or 0).elim id id
  rcases screenLength_eq_or x with h | h
  · rw [h, h]
  · rw [h, hzero]

/-- Setting a size a second time changes nothing. -/
theorem sized_setSize (v : Viewport Float) (size : Size Float) : (v.setSize size).Sized := by
  unfold Sized setSize
  simp only [screenLength_screenLength]

theorem sized_new (settings : ViewportSettings Float) : (new settings).Sized := by
  have hzero : screenLength (0 : Float) = 0 := (screenLength_eq_or 0).elim id id
  show ({ new settings with size := ⟨screenLength 0, screenLength 0⟩ } : Viewport Float) = _
  rw [hzero]
  rfl

end Viewport

namespace Session

variable {listing : MarkerFilter → List (Marker Float) → Prop} {settings : Settings Float}
  {s : Session Float} {m : MapMeta}

/-! ## What a size of the screen comes to -/

/-- Fitting a map, now or later, leaves the screen alone. -/
theorem sameScreen_fittedOrDue (h : s.viewport.Sized) (m : MapMeta) :
    s.viewport.SameScreen (s.fittedOrDue m).viewport := by
  unfold fittedOrDue
  split
  · exact .refl s.viewport
  · exact h.sameScreen_fit (mapSize m)

theorem isFitted_fittedOrDue (h : s.viewport.Sized)
    (hroom : (s.fittedOrDue m).viewport.size.isEmpty = false) :
    (s.fittedOrDue m).viewport.IsFitted (mapSize m) := by
  rw [(sameScreen_fittedOrDue h m).size] at hroom
  unfold fittedOrDue
  rw [hroom, if_neg Bool.false_ne_true]
  exact h.isFitted_fit (mapSize m)

theorem needsFit_fittedOrDue (h : s.viewport.Sized)
    (hempty : (s.fittedOrDue m).viewport.size.isEmpty = true) :
    (s.fittedOrDue m).needsFit = true := by
  rw [(sameScreen_fittedOrDue h m).size] at hempty
  unfold fittedOrDue
  rw [if_pos hempty]

/-- After `resize` the screen is as `setSize` makes it, also where the map was fitted. -/
theorem sameScreen_resize (s : Session Float) (size : Size Float) :
    (s.viewport.setSize size).SameScreen (s.resize size).viewport := by
  have hsized := s.viewport.sized_setSize size
  simp only [resize]
  split
  · split
    · exact .refl _
    · next m _ => exact hsized.sameScreen_fit (mapSize m)
  · exact .refl _

/-- A screen with room fits the map if this is due. -/
theorem isFitted_resize {size : Size Float} (hm : s.metadata = some m) (hdue : s.needsFit = true)
    (hroom : (s.resize size).viewport.size.isEmpty = false) :
    (s.resize size).viewport.IsFitted (mapSize m) := by
  rw [(s.sameScreen_resize size).size] at hroom
  simp only [resize, hm, hdue, hroom, Bool.not_false, Bool.and_true, if_true]
  exact (s.viewport.sized_setSize size).isFitted_fit (mapSize m)

/-- A screen without room leaves due what is due. -/
theorem needsFit_resize {size : Size Float} (hdue : s.needsFit = true)
    (hempty : (s.resize size).viewport.size.isEmpty = true) : (s.resize size).needsFit = true := by
  rw [(s.sameScreen_resize size).size] at hempty
  simp only [resize, hempty, Bool.not_true, Bool.and_false, Bool.false_eq_true, if_false]
  exact hdue

/-- In every run the size of the screen is one that `setSize` leaves as it is. -/
theorem Reachable.sized (h : Reachable listing settings s) : s.viewport.Sized := by
  refine h.invariant (P := fun s => s.viewport.Sized)
    (Viewport.sized_new settings.viewport) fun {s op r} ih hr => ?_
  -- Only a resize sets the size, and a viewport that is fitted or panned keeps the one it has.
  cases hr with
  | moved v drag walk hop hlists hscreen => exact hscreen.sized ih
  | @fitted m hm => exact (ih.sameScreen_fit (mapSize m)).sized ih
  | resized size => exact (s.sameScreen_resize size).sized (s.viewport.sized_setSize size)
  | clustered enabled => exact ih
  | selected hid => exact ih
  | failed why hop => exact ih
  | relisted hop hlists hsome hms => exact ih
  | filterOnly f hmap => exact ih
  | filterUnlisted f message e => exact ih
  | filterListed f hmap hms => exact ih
  | mapUnlisted map metadata message e hknown => exact s.viewport.sameScreen_reset.sized ih
  | @mapListed map m ms hname hms =>
    have hreset : s.viewport.reset.Sized := s.viewport.sameScreen_reset.sized ih
    exact (sameScreen_fittedOrDue hreset m).sized hreset

/-! ## What has happened since a map was selected -/

/-- Does the operation go to a map? -/
def Operation.selectsMap {α : Type} : Operation α → Bool
  | .selectMap _ => true
  | _ => false

/-- The events since a map was selected last, in the order in which they happened; the selection is
the first of them. -/
def sinceSelection {α : Type} : List (Event α) → List (Event α)
  | [] => []
  | e :: es => if e.op.selectsMap then [e] else sinceSelection es ++ [e]

/-- Has the screen room after the event? -/
def Event.roomy (e : Event Float) : Bool := !e.after.viewport.size.isEmpty

/-- The event fitted the map: it selected it, or gave the screen a size. -/
structure Event.Fits (e : Event Float) (m : MapMeta) : Prop where
  cause : e.op = .selectMap m.name ∨ ∃ size, e.op = .resize size
  metadata : e.after.metadata = some m
  fitted : e.after.viewport.IsFitted (mapSize m)

/-- The map was selected last when its markers could not be listed. -/
def CutShort (m : MapMeta) (es : List (Event Float)) : Prop :=
  ∃ e why, (sinceSelection es).head? = some e ∧ e.op = .selectMap m.name ∧
    e.result = .error (.store why)

/-- How far it has come with fitting the map. -/
inductive Fitting (m : MapMeta) (es : List (Event Float)) (s : Session Float) : Prop
  /-- The screen has had no room yet. -/
  | due (hnone : (sinceSelection es).find? Event.roomy = none) (hdue : s.needsFit = true)
      (hempty : s.viewport.size.isEmpty = true)
  /-- The first event with room on the screen fitted it. -/
  | done {e : Event Float} (hfirst : (sinceSelection es).find? Event.roomy = some e)
      (hfits : e.Fits m)
  | cutShort (h : CutShort m es)

section
variable {e : Event Float} {es : List (Event Float)}

/-- A selection is the first event. -/
theorem find?_sinceSelection_selection (hop : e.op.selectsMap = true) :
    (sinceSelection (e :: es)).find? Event.roomy = if e.roomy then some e else none := by
  rw [sinceSelection, hop, if_pos rfl, List.find?_singleton]

theorem sinceSelection_cons (hop : e.op.selectsMap = false) :
    sinceSelection (e :: es) = sinceSelection es ++ [e] := by
  rw [sinceSelection, hop, if_neg Bool.false_ne_true]

theorem CutShort.cons (h : CutShort m es) (hop : e.op.selectsMap = false) :
    CutShort m (e :: es) := by
  obtain ⟨first, why, hhead, hselects, hresult⟩ := h
  refine ⟨first, why, ?_, hselects, hresult⟩
  rw [sinceSelection_cons hop, List.head?_append, hhead, Option.some_or]

/-- Where the map is fitted already, further events make no difference. -/
theorem find?_sinceSelection_of_some {first : Event Float}
    (hfirst : (sinceSelection es).find? Event.roomy = some first)
    (hop : e.op.selectsMap = false) :
    (sinceSelection (e :: es)).find? Event.roomy = some first := by
  rw [sinceSelection_cons hop, List.find?_append, hfirst, Option.some_or]

/-- Where it is not, the next event may be the first one with room. -/
theorem find?_sinceSelection_of_none (hnone : (sinceSelection es).find? Event.roomy = none)
    (hop : e.op.selectsMap = false) :
    (sinceSelection (e :: es)).find? Event.roomy = if e.roomy then some e else none := by
  rw [sinceSelection_cons hop, List.find?_append, hnone, Option.none_or, List.find?_singleton]

/-- Where the screen had no room before, the map is fitted if it has room now, and due otherwise. -/
theorem Fitting.of_first
    (hfirst : (sinceSelection (e :: es)).find? Event.roomy = if e.roomy then some e else none)
    (hfits : e.after.viewport.size.isEmpty = false → e.Fits m)
    (hdue : e.after.viewport.size.isEmpty = true → e.after.needsFit = true) :
    Fitting m (e :: es) e.after := by
  unfold Event.roomy at hfirst
  cases hempty : e.after.viewport.size.isEmpty with
  | true =>
    rw [hempty] at hfirst
    exact .due hfirst (hdue hempty) hempty
  | false =>
    rw [hempty] at hfirst
    exact .done hfirst (hfits hempty)

end

/-! ## Runs -/

/-- Of the operations that stay on the map, only a new size of the screen makes room on it or takes
up the fit that is due. -/
theorem ComesTo.keepsRoom {op : Operation Float} {r : After Float Unit}
    (hr : ComesTo listing s op r) (hop : op.selectsMap = false) (hsized : s.viewport.Sized) :
    (r.1.metadata = s.metadata ∧ r.1.viewport.size = s.viewport.size ∧
      r.1.needsFit = s.needsFit) ∨ ∃ size, op = .resize size ∧ r.1 = s.resize size := by
  -- Only two operations look at the size and at the fit that is due: a resize, and a change of the
  -- map, which is excluded.
  cases hr with
  | moved v drag walk hop hlists hscreen => exact .inl ⟨rfl, hscreen.size, rfl⟩
  | @fitted m hm => exact .inl ⟨rfl, (hsized.sameScreen_fit (mapSize m)).size, rfl⟩
  | resized size => exact .inr ⟨size, rfl, rfl⟩
  | clustered enabled => exact .inl ⟨rfl, rfl, rfl⟩
  | selected hid => exact .inl ⟨rfl, rfl, rfl⟩
  | failed why hop => exact .inl ⟨rfl, rfl, rfl⟩
  | relisted hop hlists hsome hms => exact .inl ⟨rfl, rfl, rfl⟩
  | filterOnly f hmap => exact .inl ⟨rfl, rfl, rfl⟩
  | filterUnlisted f message e => exact .inl ⟨rfl, rfl, rfl⟩
  | filterListed f hmap hms => exact .inl ⟨rfl, rfl, rfl⟩
  | mapUnlisted map metadata message e hknown => cases hop
  | mapListed map hname hms => cases hop

/-- A selection leaves the map fitted, or due to be fitted, or it was cut short. -/
theorem fitting_selectMap {es : List (Event Float)} {s' : Session Float} {map : String}
    {result : Except SessionError Unit} (hsized : s.viewport.Sized)
    (hr : ComesTo listing s (.selectMap map) (s', result)) (hm : s'.metadata = some m) :
    Fitting m (⟨s, .selectMap map, s', result⟩ :: es) s' := by
  cases hr with
  | moved v drag walk hop => cases hop
  | failed why hop => cases hop
  | relisted hop => cases hop
  | mapUnlisted _ metadata message e hknown =>
    -- There are metadata but no listing: the selection has failed on the way to the fit.
    obtain ⟨rfl, why, rfl⟩ := hknown m hm
    exact .cutShort ⟨_, why, rfl, rfl, rfl⟩
  | @mapListed _ m' ms hname =>
    let listed : Session Float :=
      ({ s.cleared map with metadata := some m' } : Session Float).relisted ms
    have hlisted : listed.viewport.Sized := s.viewport.sameScreen_reset.sized hsized
    have hmeta : (listed.fittedOrDue m').metadata = some m' :=
      (listed.sameListing_fittedOrDue m').metadata
    obtain rfl : m' = m := Option.some.inj (hmeta.symm.trans hm)
    refine .of_first (find?_sinceSelection_selection rfl) (fun hroom => ?_)
      (needsFit_fittedOrDue hlisted)
    exact ⟨.inl (congrArg Operation.selectMap hname.symm), hmeta,
      isFitted_fittedOrDue hlisted hroom⟩

/-- A new size of the screen fits a map that is due to be fitted, unless there is still no room. -/
theorem Fitting.resize {es : List (Event Float)} (h : Fitting m es s) (hm : s.metadata = some m)
    (size : Size Float) (result : Except SessionError Unit) :
    Fitting m (⟨s, .resize size, s.resize size, result⟩ :: es) (s.resize size) := by
  cases h with
  | due hnone hdue hempty =>
    have hmeta : (s.resize size).metadata = some m :=
      (s.sameListing_resize size).metadata.trans hm
    refine .of_first (find?_sinceSelection_of_none hnone rfl) (fun hroom => ?_)
      (needsFit_resize hdue)
    exact ⟨.inr ⟨size, rfl⟩, hmeta, isFitted_resize hm hdue hroom⟩
  | done hfirst hfits => exact .done (find?_sinceSelection_of_some hfirst rfl) hfits
  | cutShort h => exact .cutShort (h.cons rfl)

/-- What leaves the room on the screen alone leaves it at what has come of the fitting. -/
theorem Fitting.of_size_eq {es : List (Event Float)} {e : Event Float} (h : Fitting m es s)
    (hop : e.op.selectsMap = false) (hsize : e.after.viewport.size = s.viewport.size)
    (hneeds : e.after.needsFit = s.needsFit) : Fitting m (e :: es) e.after := by
  cases h with
  | due hnone hdue hempty =>
    have hroomy : e.roomy = false := by rw [Event.roomy, hsize, hempty, Bool.not_true]
    have hstill := find?_sinceSelection_of_none hnone hop
    rw [hroomy] at hstill
    exact .due hstill (hneeds.trans hdue) (hsize ▸ hempty)
  | done hfirst hfits => exact .done (find?_sinceSelection_of_some hfirst hop) hfits
  | cutShort h => exact .cutShort (h.cons hop)

/-- In every run it has come to one of these with the map that is shown. -/
theorem History.fitting {es : List (Event Float)} (h : History listing settings es s)
    (hm : s.metadata = some m) : Fitting m es s := by
  -- By induction on the run.
  induction h with
  | new => cases hm
  | @step es s s' op result hs hr ih =>
    have hsized := hs.reachable.sized
    -- A selection starts over. Any other event keeps what has come of the fitting, but for a new
    -- size, which may be the first one with room.
    cases hop : op.selectsMap with
    | true =>
      cases op with
      | selectMap map => exact fitting_selectMap hsized (comesTo_selectMap hr) hm
      | _ => cases hop
    | false =>
      obtain ⟨hmeta, hsize, hneeds⟩ | ⟨size, rfl, hresize⟩ :=
        (attempt_comesTo hr).keepsRoom hop hsized
      · exact (ih (hmeta.symm.trans hm)).of_size_eq hop hsize hneeds
      · obtain rfl : s' = s.resize size := hresize
        have hmeta := (s.sameListing_resize size).metadata
        exact (ih (hmeta.symm.trans hm)).resize (hmeta.symm.trans hm) size result

/-- **A map that is selected is fitted**, unless its markers could not be listed when it was
selected. In every run that has led to a map on a screen with room, the first event since the
selection after which the screen had room has fitted the map: the selection itself, or the first
size with room in it. -/
theorem History.fits_selected_map {es : List (Event Float)} (h : History listing settings es s)
    (hm : s.metadata = some m) (hroom : s.viewport.size.isEmpty = false) :
    (∃ e, (sinceSelection es).find? Event.roomy = some e ∧ e.Fits m) ∨
      ∃ e why, (sinceSelection es).head? = some e ∧ e.op = .selectMap m.name ∧
        e.result = .error (.store why) := by
  cases h.fitting hm with
  | due hnone hdue hempty =>
    -- A fit is due only as long as the screen has no room.
    rw [hempty] at hroom
    cases hroom
  | done hfirst hfits => exact .inl ⟨_, hfirst, hfits⟩
  | cutShort h => exact .inr h

/-- A map is selected while the screen has no size yet; then it gets one. -/
theorem fits_after_resize :
    ∃ (es : List (Event Float)) (s : Session Float) (e : Event Float),
      s.metadata = some poeta ∧ s.viewport.size.isEmpty = false ∧ e ∈ es ∧ e.Fits poeta := by
  let s₁ : Session Float := (new Settings.standard).atPoeta [chest]
  let s₂ : Session Float := s₁.resize ⟨800, 600⟩
  let es : List (Event Float) :=
    [⟨s₁, .resize ⟨800, 600⟩, s₂, .ok ()⟩, ⟨new Settings.standard, .selectMap "Poeta", s₁, .ok ()⟩]
  have h₁ : History (fun _ _ => True) Settings.standard es.tail s₁ :=
    .step .new (selectMap_yields_atPoeta isEmpty_size_new trivial)
  have h₂ : History (fun _ _ => True) Settings.standard es s₂ := h₁.step rfl
  have hm : s₂.metadata = some poeta := (s₁.sameListing_resize ⟨800, 600⟩).metadata
  have hroom : s₂.viewport.size.isEmpty = false := by decide +kernel
  obtain ⟨e, hfirst, hfits⟩ | ⟨e, why, hhead, -, hresult⟩ := h₂.fits_selected_map hm hroom
  · exact ⟨es, s₂, e, hm, hroom, List.mem_reverse.mp (List.mem_of_find?_eq_some hfirst), hfits⟩
  · obtain rfl := Option.some.inj hhead
    cases hresult

/-- What happens after a selection that was cut short: a refresh lists the markers and the screen
gets a size, and still the map is shown as it is, and not fitted. -/
theorem shown_and_not_fitted :
    ∃ (es : List (Event Float)) (s : Session Float),
      History (fun _ _ => True) Settings.standard es s ∧ s.metadata = some poeta ∧
      s.markers = [chest] ∧ s.pageError = none ∧ s.viewport.size.isEmpty = false ∧
      ∀ e ∈ es, e.after.metadata = some poeta ∧
        ¬e.after.viewport.IsFitted (mapSize poeta) := by
  let s₀ : Session Float := new Settings.standard
  let s₁ : Session Float :=
    ({ s₀.cleared "Poeta" with metadata := some poeta } : Session Float).failed .unavailable
  let s₂ : Session Float := s₁.relisted [chest]
  let s₃ : Session Float := { s₂ with viewport := s₂.viewport.setSize ⟨800, 600⟩ }
  have h₁ : History (fun _ _ => True) Settings.standard
      [⟨s₀, .selectMap "Poeta", s₁, .error (.store .unavailable)⟩] s₁ :=
    .step .new ⟨.ok [poeta], .error .unavailable, fun _ _ => trivial, rfl⟩
  have h₂ : History (fun _ _ => True) Settings.standard
      [⟨s₁, .refresh, s₂, .ok ()⟩, ⟨s₀, .selectMap "Poeta", s₁, .error (.store .unavailable)⟩] s₂ :=
    h₁.step ⟨.ok [chest], fun _ _ => trivial, rfl⟩
  have h₃ : History (fun _ _ => True) Settings.standard
      [⟨s₂, .resize ⟨800, 600⟩, s₃, .ok ()⟩, ⟨s₁, .refresh, s₂, .ok ()⟩,
        ⟨s₀, .selectMap "Poeta", s₁, .error (.store .unavailable)⟩] s₃ :=
    h₂.step rfl
  -- Fitting the map would change the scale, before the resize and after it.
  have hbefore : ¬s₁.viewport.IsFitted (mapSize poeta) := fun h =>
    absurd (congrArg Viewport.scale h) (by decide +kernel)
  have hafter : ¬s₃.viewport.IsFitted (mapSize poeta) := fun h =>
    absurd (congrArg Viewport.scale h) (by decide +kernel)
  have hroom : s₃.viewport.size.isEmpty = false := by decide +kernel
  refine ⟨_, s₃, h₃, rfl, rfl, rfl, hroom, fun e he => ?_⟩
  rcases List.mem_cons.mp he with rfl | he
  · exact ⟨rfl, hafter⟩
  rcases List.mem_cons.mp he with rfl | he
  · exact ⟨rfl, hbefore⟩
  · obtain rfl := List.mem_singleton.mp he
    exact ⟨rfl, hbefore⟩

end Session

end MarkerAtlas
