import MarkerAtlas.Proofs.Session.History

/-!
# Whose done flags a session writes

A session shows the flags of the owner under whom it listed its markers last, and writes those of
the owner that its filter names. These are the same unless a change of the filter failed: then the
filter names the new owner already, and the markers are still those of the old one. Until markers
are listed again, turning a flag around writes the negation of somebody else's flag.
-/

namespace MarkerAtlas

variable {α : Type}

/-- Both filters are about the same done flags. -/
structure MarkerFilter.SameOwner (f g : MarkerFilter) : Prop where
  scope : f.scope = g.scope
  owner : f.scope.owner? f.characterId = g.scope.owner? g.characterId

theorem MarkerFilter.SameOwner.refl (f : MarkerFilter) : f.SameOwner f := ⟨rfl, rfl⟩

theorem MarkerFilter.SameOwner.symm {f g : MarkerFilter} (h : f.SameOwner g) : g.SameOwner f :=
  ⟨h.scope.symm, h.owner.symm⟩

theorem MarkerFilter.SameOwner.trans {f g k : MarkerFilter} (hfg : f.SameOwner g)
    (hgk : g.SameOwner k) : f.SameOwner k :=
  ⟨hfg.scope.trans hgk.scope, hfg.owner.trans hgk.owner⟩

namespace Session

/-! ## Events -/

/-- The filter was to be one for another owner, and the markers could not be listed. -/
def Event.Misdirects (e : Event α) : Prop :=
  e.result.isOk = false ∧ ∃ f, e.op = .setFilter f ∧ ¬f.SameOwner e.before.filter

/-- Since markers were listed last, a change to another owner failed. -/
def Astray : List (Event α) → Prop
  | [] => False
  | e :: es => e.Misdirects ∨ (e.lists = false ∧ Astray es)

variable {listing : MarkerFilter → List (Marker α) → Prop} {s s' : Session α} {e : Event α}

/-- The markers of the session were listed by the event, for the owner that its filter names. -/
structure Event.Provides (listing : MarkerFilter → List (Marker α) → Prop) (e : Event α)
    (s : Session α) : Prop where
  lists : e.lists = true
  markers : e.after.markers = s.markers
  listed : listing e.after.filter e.after.markers
  owner : e.after.filter.SameOwner s.filter

/-- The event stays the one that listed the markers as long as the owner stays the same. -/
theorem Event.Provides.of_sameOwner (h : e.Provides listing s) (hmarkers : s'.markers = s.markers)
    (howner : s.filter.SameOwner s'.filter) : e.Provides listing s' :=
  ⟨h.lists, h.markers.trans hmarkers.symm, h.listed, h.owner.trans howner⟩

theorem Event.provides_after (hlists : e.lists = true)
    (hlisted : listing e.after.filter e.after.markers) : e.Provides listing e.after :=
  ⟨hlists, rfl, hlisted, .refl _⟩

/-- What an event makes of the owner: there is nothing to show, or a change to another owner failed,
or the markers were listed, or they are shown for the same owner as before. -/
inductive Event.OwnerAfter (listing : MarkerFilter → List (Marker α) → Prop) (e : Event α) : Prop
  | blank (hnil : e.after.markers = [])
  | misdirected (h : e.Misdirects)
  | listed (h : e.Provides listing e.after)
  | kept (hlists : e.lists = false) (hmarkers : e.after.markers = e.before.markers)
      (howner : e.before.filter.SameOwner e.after.filter)

/-- An event that listed nothing and left the filter alone. -/
theorem Event.ownerAfter_of_eq (hlists : e.lists = false)
    (hmarkers : e.after.markers = e.before.markers) (hfilter : e.after.filter = e.before.filter) :
    e.OwnerAfter listing :=
  .kept hlists hmarkers (hfilter ▸ .refl _)

/-- A change of the filter after which nothing could be listed: it names the new owner. -/
theorem Event.ownerAfter_of_setFilter {f : MarkerFilter} (hop : e.op = .setFilter f)
    (herror : e.result.isOk = false) (hmarkers : e.after.markers = e.before.markers)
    (hfilter : e.after.filter = { f with map := e.before.map }) : e.OwnerAfter listing := by
  by_cases howner : f.SameOwner e.before.filter
  · have hlists : e.lists = false := by simp [Event.lists, herror]
    have hsame : e.before.filter.SameOwner e.after.filter := by
      rw [hfilter]
      exact ⟨howner.symm.scope, howner.symm.owner⟩
    exact .kept hlists hmarkers hsame
  · exact .misdirected ⟨herror, f, hop, howner⟩

/-! ## Runs -/

variable [Scalar α] {settings : Settings α}

/-- Every operation comes to one of these. -/
theorem ComesTo.ownerAfter {op : Operation α} {result : Except SessionError Unit}
    (hunmapped : s.map = none → s.markers = []) (hr : ComesTo listing s op (s', result)) :
    Event.OwnerAfter listing ⟨s, op, s', result⟩ := by
  cases hr with
  | moved v drag walk hop hlists hscreen =>
    have hnot : (op.lists && result.isOk) = false := by
      obtain hlists | hfailed := hlists
      · rw [hlists, Bool.false_and]
      · rw [hfailed, Bool.and_false]
    exact Event.ownerAfter_of_eq hnot rfl rfl
  | fitted hm => exact Event.ownerAfter_of_eq rfl rfl rfl
  | resized size =>
    have hsame := s.sameListing_resize size
    exact Event.ownerAfter_of_eq rfl hsame.markers hsame.filter
  | clustered enabled => exact Event.ownerAfter_of_eq rfl rfl rfl
  | selected hid => exact Event.ownerAfter_of_eq rfl rfl rfl
  | failed why hop => exact Event.ownerAfter_of_eq (Bool.and_false _) rfl rfl
  | relisted hop hlists hsome hms =>
    have hlisted : (op.lists && true) = true := by rw [hlists, Bool.and_true]
    exact .listed (Event.provides_after hlisted hms)
  | filterOnly f hmap => exact .blank (hunmapped hmap)
  | filterUnlisted f message e => exact Event.ownerAfter_of_setFilter rfl rfl rfl rfl
  | filterListed f hmap hms => exact .listed (Event.provides_after rfl hms)
  -- A change of the map forgets the markers first, so that none of another owner can be left.
  | mapUnlisted map metadata message e hknown => exact .blank rfl
  | @mapListed map m ms hname hms =>
    let entered : Session α := { s.cleared map with metadata := some m }
    have hsame := (entered.relisted ms).sameListing_fittedOrDue m
    have hlisted : listing ((entered.relisted ms).fittedOrDue m).filter
        ((entered.relisted ms).fittedOrDue m).markers := by
      rw [hsame.filter, hsame.markers]
      exact hms
    exact .listed (Event.provides_after rfl hlisted)

/-- Unless a change to another owner failed since, what is shown was listed for the owner that the
filter names now. -/
theorem History.exists_provides {es : List (Event α)} (h : History listing settings es s)
    (hshown : s.markers ≠ []) (hastray : ¬Astray es) : ∃ e ∈ es, e.Provides listing s := by
  induction h with
  | new => exact absurd rfl hshown
  | @step es s s' op result hs hr ih =>
    have hunmapped : s.map = none → s.markers = [] := fun hnone =>
      (hs.reachable.unmapped hnone).2
    simp only [Astray, not_or, not_and] at hastray
    obtain ⟨hdirect, hastray⟩ := hastray
    -- Either the last event listed the markers, or it kept them and their owner, and the event that
    -- did list them came before.
    cases (attempt_comesTo hr).ownerAfter hunmapped with
    | blank hnil => exact absurd hnil hshown
    | misdirected h => exact absurd h hdirect
    | listed h => exact ⟨_, List.mem_cons_self, h⟩
    | kept hlists hmarkers howner =>
      have hmarkers : s'.markers = s.markers := hmarkers
      rw [hmarkers] at hshown
      obtain ⟨e, he, hprovides⟩ := ih hshown (hastray hlists)
      exact ⟨e, List.mem_cons_of_mem _ he, hprovides.of_sameOwner hmarkers howner⟩

/-- **Flags are written for the owner for whom they are shown**, unless a change to another owner
failed since the markers were listed. The markers that are shown were listed in some event, under a
filter with the scope and the owner of the filter now. So turning around the flag of a marker sends
one command, for this scope and this owner: to set the flag if the listing had it cleared, and to
clear it if the listing had it set. -/
theorem History.writes_for_owner {es : List (Event α)} (h : History listing settings es s)
    (hshown : s.markers ≠ []) (hastray : ¬Astray es) :
    ∃ e ∈ es, e.Provides listing s ∧
      ∀ (id : String) (m : Marker α), s.marker id = .ok m →
        m ∈ e.after.markers ∧
        ∀ (σ : Type) (store : Store σ α) (state : σ),
          ∃ c : SetDone, (s.toggleDone id).commands store state = [c] ∧
            c.scope = e.after.filter.scope ∧
            c.scope.owner? c.characterId =
              e.after.filter.scope.owner? e.after.filter.characterId ∧
            c.markerId = id ∧ c.done = !m.done := by
  obtain ⟨e, he, hprovides⟩ := h.exists_provides hshown hastray
  refine ⟨e, he, hprovides, fun id m hm => ⟨?_, fun σ store state => ?_⟩⟩
  · rw [hprovides.markers]
    exact List.mem_of_find?_eq_some (marker_ok hm)
  · exact ⟨s.command id (!m.done), commands_toggleDone hm state, hprovides.owner.symm.scope,
      hprovides.owner.symm.owner, rfl, rfl⟩

/-- After the chest was listed for the account, turning its flag around is the account's. -/
theorem writes_for_account :
    ∃ (store : MemoryStore Float) (s : Session Float) (c : SetDone),
      s.markers ≠ [] ∧ (s.toggleDone "a").commands MemoryStore.store store = [c] ∧
        c.scope.owner? c.characterId = Scope.account.owner? none ∧ c.done = true := by
  let store : MemoryStore Float := .ofLists [poeta] [chest]
  let s : Session Float := (new Settings.standard).atPoeta [chest]
  have hs : History (fun f ms => store.listMarkers f = .ok ms) Settings.standard
      [⟨new Settings.standard, .selectMap "Poeta", s, .ok ()⟩] s :=
    .step .new (selectMap_yields_atPoeta isEmpty_size_new rfl)
  have hshown : s.markers ≠ [] := List.cons_ne_nil _ _
  obtain ⟨e, he, -, hcommands⟩ := hs.writes_for_owner hshown (by simp [Astray, Event.Misdirects])
  obtain rfl := List.mem_singleton.mp he
  obtain ⟨-, hcommand⟩ := hcommands "a" chest rfl
  obtain ⟨c, hc, -, howner, -, hdone⟩ := hcommand _ MemoryStore.store store
  exact ⟨store, s, c, hshown, hc, howner, hdone⟩

/-- What happens after a change to another owner that failed: the chest is done for the account and
not for the hero, and is shown as done. The filter was to be the hero's, but the store was down.
Since then what is shown could not have been listed for the filter's owner, and turning the flag
around clears the hero's, which is not even set. -/
theorem hero_written_for_account :
    ∃ (store : MemoryStore Float) (s : Session Float),
      Reachable (fun f ms => store.listMarkers f = .ok ms) Settings.standard s ∧
      s.markers ≠ [] ∧
      (∀ f, store.listMarkers f = .ok s.markers → ¬f.SameOwner s.filter) ∧
      s.flagIn MemoryStore.flags "a" store = false ∧
      (s.toggleDone "a").commands MemoryStore.store store =
        [⟨.character, some "hero", "a", false⟩] := by
  let looted : Marker Float := { chest with done := true }
  let store : MemoryStore Float := .ofLists [poeta] [looted]
  let hero : MarkerFilter :=
    { MarkerFilter.all with scope := .character, characterId := some "hero" }
  let s₁ : Session Float := (new Settings.standard).atPoeta [looted]
  let s₂ : Session Float := (s₁.refiltered hero).failed .unavailable
  have h₁ : Reachable (fun f ms => store.listMarkers f = .ok ms) Settings.standard s₁ :=
    .atPoeta .new isEmpty_size_new rfl
  have h₂ : Reachable (fun f ms => store.listMarkers f = .ok ms) Settings.standard s₂ :=
    .step (.setFilter hero) h₁ ⟨.error .unavailable, (fun _ hms => by cases hms), rfl⟩
  refine ⟨store, s₂, h₂, List.cons_ne_nil _ _, fun f hf howner => ?_, rfl, rfl⟩
  -- The flag is shown as set, but the store has none set for a character.
  have hshown : looted.done = MemoryStore.flags.isSet store f.scope f.characterId "a" :=
    MemoryStore.done_eq_isSet hf List.mem_cons_self
  have hscope : f.scope = .character := howner.scope
  rw [hscope] at hshown
  exact absurd hshown (by simp [MemoryStore.flags, store, MemoryStore.ofLists, looted])

end Session

end MarkerAtlas
