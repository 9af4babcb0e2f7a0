import MarkerAtlas.Proofs.Session.Coherent
import MarkerAtlas.Proofs.Session.Run
import MarkerAtlas.Proofs.Store.Flags
import MarkerAtlas.Scalar.Double

/-!
# Operations that fail

An operation that fails leaves the session as it was, but for what the page says of a store that
did not answer. So an operation that failed can be done again: a flag that is turned around a
second time, since the first time failed, is asked to be what it was asked to be the first time,
whether or not the store has obeyed already.
-/

namespace MarkerAtlas.Session

variable {α : Type} [Scalar α]

/-! ## Operations and their results -/

/-- Does the operation go to other markers? What was shown before is then forgotten first. -/
def Operation.retargets : Operation α → Bool
  | .selectMap _ => true
  | .setFilter _ => true
  | _ => false

/-- The session after an operation, and whether the operation succeeded. -/
def attempt (s : Session α) : Operation α → Dialogue α (After α Unit)
  | .selectMap map => s.selectMap map
  | .setFilter filter => s.setFilter filter
  | .refresh => s.refresh
  | .setDone id done => s.setDone id done
  | .toggleDone id => (s.toggleDone id).map fun r => (r.1, r.2.map fun _ => ())
  | .resize size => .done (s.resize size, .ok ())
  | .fit => .done s.fit
  | .zoomIn => .done s.zoomIn
  | .zoomOut => .done s.zoomOut
  | .input event => .done ((s.input event).1, .ok ())
  | .tick => .done (s.tick.1, .ok ())
  | .setClustering enabled => .done (s.setClustering enabled, .ok ())
  | .clickCluster key => .done (s.clickCluster key)
  | .selectMarker id => .done (s.selectMarker id)
  | .generateRoute => .done s.generateRoute
  | .next => .done (s.next.1, .ok ())
  | .prev => .done (s.prev.1, .ok ())
  | .goTo index => .done ((s.goTo index).1, .ok ())
  | .recenter => .done (s.recenter.1, .ok ())
  | .clearRoute => .done (s.clearRoute, .ok ())

/-- An attempt leads to the session to which the operation leads. -/
theorem perform_eq_map_attempt (s : Session α) (op : Operation α) :
    s.perform op = (s.attempt op).map (·.1) := by
  cases op with
  | toggleDone id =>
    unfold attempt
    rw [Dialogue.map_map]
    rfl
  | _ => rfl

/-- The session after an error: the page tells why the store did not answer. -/
def afterError (s : Session α) : SessionError → Session α
  | .store why => s.failed why
  | _ => s

omit [Scalar α] in
theorem afterError_of_ne_store {s : Session α} {e : SessionError} (h : ∀ why, e ≠ .store why) :
    s.afterError e = s := by
  cases e with
  | store why => exact absurd rfl (h why)
  | _ => rfl

/-! ## What an error leaves of the session -/

section
variable {s s' : Session α} {e : SessionError} {listing : MarkerFilter → List (Marker α) → Prop}

omit [Scalar α] in
/-- What is refused without the store leaves the session, the page's error included. -/
theorem Outcome.eq_afterError {next : Session α → Prop} {r : After α Unit}
    (h : s.Outcome next r) (he : (s', .error e) = r) : s' = s.afterError e := by
  obtain ⟨rfl, hwhy⟩ := h.error he.symm
  exact (afterError_of_ne_store hwhy).symm

theorem refresh_error (h : s.refresh.Yields listing (s', .error e)) : s' = s.afterError e := by
  obtain ⟨-, h⟩ | ⟨-, ⟨why, h⟩ | ⟨ms, -, h⟩⟩ := refresh_cases h
  · cases h
    exact (afterError_of_ne_store fun why => lacksMap_ne_store).symm
  · cases h
    rfl
  · cases h

omit [Scalar α] in
theorem afterError_of_marker {id : String} (h : s.marker id = .error e) : s.afterError e = s := by
  obtain rfl := marker_error h
  rfl

theorem setDone_error {id : String} {done : Bool}
    (h : (s.setDone id done).Yields listing (s', .error e)) : s' = s.afterError e := by
  obtain ⟨e', hmarker, h⟩ | ⟨why, h⟩ | h := setDone_cases h
  · cases h
    exact (afterError_of_marker hmarker).symm
  · cases h
    rfl
  · exact refresh_error h

theorem toggleDone_error {id : String} (h : (s.toggleDone id).Yields listing (s', .error e)) :
    s' = s.afterError e := by
  obtain ⟨e', hmarker, h⟩ | ⟨m, ⟨t, result⟩, -, hset, h⟩ := toggleDone_cases h
  · cases h
    exact (afterError_of_marker hmarker).symm
  · cases result with
    | ok _ => cases h
    | error e' =>
      cases h
      exact setDone_error hset

theorem attempt_error {op : Operation α} (hop : op.retargets = false)
    (h : (s.attempt op).Yields listing (s', .error e)) : s' = s.afterError e := by
  cases op with
  | selectMap map => cases hop
  | setFilter filter => cases hop
  | refresh => exact refresh_error h
  | setDone id done => exact setDone_error h
  | toggleDone id =>
    obtain ⟨⟨t, result⟩, hresult, h⟩ := (Dialogue.yields_map _ _ _).mp h
    cases result with
    | ok done => cases h
    | error e' =>
      cases h
      exact toggleDone_error hresult
  -- The others do not talk to the store. Each checks what it needs before it changes anything.
  | fit => exact (showing_outcome _).eq_afterError h
  | zoomIn => exact (showing_outcome _).eq_afterError h
  | zoomOut => exact (showing_outcome _).eq_afterError h
  | clickCluster key => exact (clickCluster_outcome key).eq_afterError h
  | selectMarker id => exact (selectMarker_outcome id).eq_afterError h
  | generateRoute => exact generateRoute_outcome.eq_afterError h
  | _ => cases h

end

/-! ## Turning a flag around again -/

/-- The command by which the session sets or clears the flag of a marker. -/
def command (s : Session α) (id : String) (done : Bool) : SetDone :=
  ⟨s.filter.scope, s.filter.characterId, id, done⟩

/-- The flag of a marker that the session shows, as the store has it. -/
def flagIn {σ : Type} (s : Session α) {store : Store σ α} (flags : store.Flags) (id : String)
    (state : σ) : Bool := flags.isSet state s.filter.scope s.filter.characterId id

section
variable {σ : Type} {s : Session α} {store : Store σ α} {id : String} {m : Marker α}

theorem commands_refresh (state : σ) : s.refresh.commands store state = [] := by
  unfold refresh
  cases s.requireMap with
  | error e => rfl
  | ok m =>
    simp only [Dialogue.commands]
    cases store.markers state s.filter <;> rfl

/-- A refresh writes nothing. -/
theorem refresh_run_fst (state : σ) : (s.refresh.run store state).1 = state := by
  unfold refresh
  cases s.requireMap with
  | error e => rfl
  | ok m =>
    simp only [Dialogue.run]
    cases store.markers state s.filter <;> rfl

theorem setDone_of_ok (hm : s.marker id = .ok m) (done : Bool) :
    s.setDone id done = .setDone (s.command id done) fun
      | .error why => .done (s.failed why, .error (.store why))
      | .ok () => s.refresh := by
  simp only [setDone, hm]
  rfl

theorem toggleDone_of_ok (hm : s.marker id = .ok m) :
    s.toggleDone id =
      (s.setDone id (!m.done)).map fun r => (r.1, r.2.map fun _ => !m.done) := by
  simp only [toggleDone, hm]
  congr 1
  funext r
  obtain ⟨t, result⟩ := r
  cases result <;> rfl

theorem toggleDone_of_error {e : SessionError} (he : s.marker id = .error e) :
    s.toggleDone id = .done (s, .error e) := by
  simp only [toggleDone, he]

/-- The one command that turns a flag around asks for the value that the session does not show. -/
theorem commands_toggleDone (hm : s.marker id = .ok m) (state : σ) :
    (s.toggleDone id).commands store state = [s.command id (!m.done)] := by
  rw [toggleDone_of_ok hm, Dialogue.commands_map, setDone_of_ok hm, Dialogue.commands]
  cases store.setDone state (s.command id (!m.done)) with
  | error why => rfl
  | ok state' => exact congrArg (_ :: ·) (commands_refresh state')

/-- A run that turns a flag around has its command refused and writes nothing, or has it obeyed and
writes nothing else. If it succeeds, it tells the value that the command asked for. -/
theorem toggleDone_run {state state' : σ} {t : Session α} {result : Except SessionError Bool}
    (hm : s.marker id = .ok m) (h : (s.toggleDone id).run store state = (state', t, result)) :
    (state' = state ∧ result.isOk = false) ∨
      (store.setDone state (s.command id (!m.done)) = .ok state' ∧
        ∀ done, result = .ok done → done = !m.done) := by
  rw [toggleDone_of_ok hm, Dialogue.run_map, setDone_of_ok hm, Dialogue.run] at h
  cases hanswer : store.setDone state (s.command id (!m.done)) with
  | error why =>
    rw [hanswer] at h
    cases h
    exact .inl ⟨rfl, rfl⟩
  | ok state₁ =>
    simp only [hanswer] at h
    -- After the write only markers are listed, which leaves the store as it is.
    have hstate : state₁ = state' := (refresh_run_fst state₁).symm.trans (congrArg Prod.fst h)
    have hresult := congrArg (fun out => out.2.2) h
    refine .inr ⟨by rw [hstate], fun done hdone => ?_⟩
    rw [hdone] at hresult
    generalize (s.refresh.run store state₁).2.2 = refreshed at hresult
    cases refreshed with
    | error e => cases hresult
    | ok _ => exact (Except.ok.inj hresult).symm

/-- The flag after a run that turns it around and succeeds is as the run tells. -/
theorem flagIn_of_toggleDone {state state' : σ} {t : Session α} {done : Bool}
    (flags : store.Flags) (h : (s.toggleDone id).run store state = (state', t, .ok done)) :
    s.flagIn flags id state' = done ∧ ∃ m, s.marker id = .ok m ∧ done = !m.done := by
  cases hmarker : s.marker id with
  | error e =>
    rw [toggleDone_of_error hmarker] at h
    cases h
  | ok m =>
    obtain ⟨-, hfailed⟩ | ⟨hobeyed, hdone⟩ := toggleDone_run hmarker h
    · cases hfailed
    · obtain rfl := hdone done rfl
      exact ⟨flags.isSet_of_obeyed hobeyed, m, rfl, rfl⟩

/-- A run that turns a flag around leaves it alone, or as it is asked to be. -/
theorem flagIn_of_run {state state' : σ} {t : Session α} {result : Except SessionError Bool}
    (flags : store.Flags) (hm : s.marker id = .ok m)
    (h : (s.toggleDone id).run store state = (state', t, result)) :
    s.flagIn flags id state' = s.flagIn flags id state ∨ s.flagIn flags id state' = !m.done := by
  obtain ⟨rfl, -⟩ | ⟨hobeyed, -⟩ := toggleDone_run hm h
  · exact .inl rfl
  · exact .inr (flags.isSet_of_obeyed hobeyed)

end

omit [Scalar α] in
/-- After an error the session finds the same markers. -/
theorem marker_afterError (s : Session α) (e : SessionError) (id : String) :
    (s.afterError e).marker id = s.marker id := by
  cases e <;> rfl

omit [Scalar α] in
/-- After an error the session talks of the same flags. -/
theorem filter_afterError (s : Session α) (e : SessionError) :
    (s.afterError e).filter = s.filter := by
  cases e <;> rfl

/-- An operation that fails changes nothing but the page's error, and that only if the store did
not answer. So if turning a flag around fails, before or after the store obeyed, then doing it again
sends the same command: a second attempt that succeeds leaves the flag as the first one wanted it,
and does not turn it back. -/
theorem failure_keeps_session (s : Session α) :
    (∀ (op : Operation α) (listing : MarkerFilter → List (Marker α) → Prop) (s' : Session α)
        (e : SessionError), op.retargets = false →
      (s.attempt op).Yields listing (s', .error e) →
        s' = { s with pageError := s'.pageError } ∧
          (s'.pageError = s.pageError ∨
            ∃ why, e = .store why ∧ s'.pageError = some why.fullMessage)) ∧
    ∀ (σ : Type) (store : Store σ α) (flags : store.Flags) (id : String)
        (state₀ state₁ state₂ : σ) (s₁ : Session α) (e : SessionError),
      (s.toggleDone id).run store state₀ = (state₁, s₁, .error e) →
        (s₁.toggleDone id).commands store state₂ = (s.toggleDone id).commands store state₀ ∧
        ∀ (state₃ : σ) (s₂ : Session α) (done : Bool),
          s.flagIn flags id state₂ = s.flagIn flags id state₁ →
          (s₁.toggleDone id).run store state₂ = (state₃, s₂, .ok done) →
            (s.toggleDone id).commands store state₀ = [s.command id done] ∧
            s.flagIn flags id state₃ = done ∧
            (s.flagIn flags id state₁ ≠ s.flagIn flags id state₀ →
              s.flagIn flags id state₃ = s.flagIn flags id state₁) := by
  constructor
  · intro op listing s' e hop h
    obtain rfl := attempt_error hop h
    cases e with
    | store why => exact ⟨rfl, .inr ⟨why, rfl, rfl⟩⟩
    | _ => exact ⟨rfl, .inl rfl⟩
  · intro σ store flags id state₀ state₁ state₂ s₁ e hfirst
    have hyields : (s.toggleDone id).Yields (fun _ _ => True) (s₁, .error e) := by
      have hrun := Dialogue.yields_run store (s.toggleDone id) state₀ fun _ _ _ _ => trivial
      rwa [hfirst] at hrun
    -- The second attempt starts from the session of the first one but for the page's error. So it
    -- finds the same marker and, since the flag shown did not change, asks for the same value.
    obtain rfl := toggleDone_error hyields
    have hsame := s.marker_afterError e id
    constructor
    · cases hmarker : s.marker id with
      | error e' => rw [toggleDone_of_error hmarker, toggleDone_of_error (hsame.trans hmarker)]; rfl
      | ok m =>
        rw [commands_toggleDone hmarker, commands_toggleDone (hsame.trans hmarker), command,
          command, filter_afterError]
    · intro state₃ s₂ done hbetween hsecond
      obtain ⟨hflag, m, hmarker, rfl⟩ := flagIn_of_toggleDone flags hsecond
      rw [flagIn, filter_afterError] at hflag
      rw [hsame] at hmarker
      refine ⟨commands_toggleDone hmarker state₀, hflag, fun hturned => ?_⟩
      -- A first attempt that changed the flag had its command obeyed before it failed.
      have hwanted := (flagIn_of_run flags hmarker hfirst).resolve_left hturned
      exact hflag.trans hwanted.symm

/-- A store that obeys but cannot be read makes turning a flag around fail. Once it can be read, a
second attempt succeeds and leaves the flag set. -/
theorem flag_set_once_after_failure :
    ∃ (s s₁ s₂ : Session Float) (state₀ state₁ state₃ : MemoryStore Float),
      (s.toggleDone "a").run MemoryStore.store state₀ = (state₁, s₁, .error (.store .unavailable)) ∧
      (s₁.toggleDone "a").run MemoryStore.store { state₁ with refusesReads := false } =
        (state₃, s₂, .ok true) ∧
      s₁ = { s with pageError := s₁.pageError } ∧
      s.flagIn MemoryStore.flags "a" state₀ = false ∧
      s.flagIn MemoryStore.flags "a" state₁ = true ∧
      s.flagIn MemoryStore.flags "a" state₃ = s.flagIn MemoryStore.flags "a" state₁ := by
  let chest : Marker Float :=
    ⟨"a", .cube, none, "Poeta", none, "Chest", none, some 1, some 2, none, false⟩
  let s : Session Float :=
    { new Settings.standard with
      map := some "Poeta"
      metadata := some (MapMeta.ofTiles "Poeta" 0 1024 1024 1 1)
      markers := [chest] }
  let state₀ : MemoryStore Float := { MemoryStore.ofLists [] [chest] with refusesReads := true }
  let first := (s.toggleDone "a").run MemoryStore.store state₀
  let state₂ : MemoryStore Float := { first.1 with refusesReads := false }
  let second := (first.2.1.toggleDone "a").run MemoryStore.store state₂
  -- Both attempts can be run; what they say about each other is left to the theorem.
  have hfirst : (s.toggleDone "a").run MemoryStore.store state₀ =
      (first.1, first.2.1, .error (.store .unavailable)) := by rfl
  have hsecond : (first.2.1.toggleDone "a").run MemoryStore.store state₂ =
      (second.1, second.2.1, .ok true) := by rfl
  have hunset : s.flagIn MemoryStore.flags "a" state₀ = false := by decide +kernel
  have hset : s.flagIn MemoryStore.flags "a" first.1 = true := by decide +kernel
  obtain ⟨hkept, hretry⟩ := failure_keeps_session s
  have hfailed : (s.attempt (.toggleDone "a")).Yields (fun _ _ => True)
      (first.2.1, .error (.store .unavailable)) :=
    Dialogue.yields_run MemoryStore.store (s.attempt (.toggleDone "a")) state₀
      fun _ _ _ _ => trivial
  have hbetween : s.flagIn MemoryStore.flags "a" state₂ = s.flagIn MemoryStore.flags "a" first.1 :=
    rfl
  have hflag := (hretry _ MemoryStore.store MemoryStore.flags "a" _ _ _ _ _ hfirst).2 _ _ true
    hbetween hsecond
  refine ⟨s, first.2.1, second.2.1, state₀, first.1, second.1, hfirst, hsecond, ?_, hunset, hset,
    ?_⟩
  · exact (hkept (.toggleDone "a") _ _ _ rfl hfailed).1
  · exact hflag.2.2 (by rw [hset, hunset]; decide)

end MarkerAtlas.Session
