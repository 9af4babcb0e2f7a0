import MarkerAtlas.Database.Archive
import MarkerAtlas.Proofs.Database.Flags
import MarkerAtlas.Store.Memory

/-!
# Commands and flags

Which commands a dialogue sends to a store, and what the commands that are obeyed do to the done
flags: the flag of the command is as it asks for, in memory and in a database alike.
-/

namespace MarkerAtlas

variable {σ α β γ : Type}

/-! ## Commands -/

/-- The commands that a run of the dialogue sends to the store, refused ones among them. -/
def Dialogue.commands (store : Store σ α) : Dialogue α β → σ → List SetDone
  | done _, _ => []
  | listMaps k, s => (k (store.maps s)).commands store s
  | listMarkers filter k, s => (k (store.markers s filter)).commands store s
  | setDone command k, s =>
    command ::
      match store.setDone s command with
      | .error e => (k (.error e)).commands store s
      | .ok s => (k (.ok ())).commands store s

theorem Dialogue.commands_map (store : Store σ α) (d : Dialogue α β) (f : β → γ) (s : σ) :
    (d.map f).commands store s = d.commands store s := by
  unfold Dialogue.map
  induction d generalizing s with
  | done b => rfl
  | listMaps k ih => exact ih _ s
  | listMarkers filter k ih => exact ih _ s
  | setDone command k ih =>
    simp only [andThen, commands]
    cases store.setDone s command with
    | error e => exact congrArg (command :: ·) (ih _ s)
    | ok s' => exact congrArg (command :: ·) (ih _ s')

/-- The done flags of a store. A command that is obeyed leaves its flag as it asks for. -/
structure Store.Flags (store : Store σ α) where
  isSet : σ → Scope → Option String → String → Bool
  isSet_of_obeyed : ∀ {s s' : σ} {c : SetDone}, store.setDone s c = .ok s' →
    isSet s' c.scope c.characterId c.markerId = c.done

/-! ## Flags in memory -/

namespace MemoryStore

/-- The key under which the flag of a command is kept. -/
def keyOf (c : SetDone) : ProgressKey := ⟨c.scope, characterOf c.scope c.characterId, c.markerId⟩

/-- What it says of a command that the store in memory obeyed it. -/
structure Obeyed (s : MemoryStore α) (c : SetDone) (s' : MemoryStore α) : Prop where
  allowed : s.refusesWrites = false
  owned : lacksCharacter c.scope c.characterId = false
  known : ∃ m ∈ s.markers, m.id = c.markerId
  kept : s' = { s with progress := s'.progress }
  progress : ∀ key, key ∈ s'.progress ↔ if key = keyOf c then c.done = true else key ∈ s.progress

theorem setDone_ok {s s' : MemoryStore α} {c : SetDone} (h : s.setDone c = .ok s') :
    s.Obeyed c s' := by
  unfold setDone at h
  -- One test after another would have refused the command.
  by_cases hrefuses : s.refusesWrites = true
  · rw [if_pos hrefuses] at h
    cases h
  by_cases hlacks : lacksCharacter c.scope c.characterId = true
  · rw [if_neg hrefuses, if_pos hlacks] at h
    cases h
  by_cases hunknown : (s.markers.all fun m => m.id ≠ c.markerId) = true
  · rw [if_neg hrefuses, if_neg hlacks, if_pos hunknown] at h
    cases h
  rw [if_neg hrefuses, if_neg hlacks, if_neg hunknown] at h
  cases h
  have hknown : ∃ m ∈ s.markers, m.id = c.markerId := by simpa using hunknown
  -- The key of the command is added or taken out, and no other key is.
  refine ⟨by simpa using hrefuses, by simpa using hlacks, hknown, rfl, fun key => ?_⟩
  by_cases hkey : key = keyOf c
  · cases hdone : c.done <;> simp [hkey, keyOf]
  · have hne : key ≠ ⟨c.scope, characterOf c.scope c.characterId, c.markerId⟩ := hkey
    cases hdone : c.done <;> simp [hkey, hne]

/-- A command that names an owner and a marker that is there is obeyed. -/
theorem exists_setDone {s : MemoryStore α} {c : SetDone} (hwrites : s.refusesWrites = false)
    (howned : lacksCharacter c.scope c.characterId = false)
    (hknown : ∃ m ∈ s.markers, m.id = c.markerId) : ∃ s', s.setDone c = .ok s' := by
  have hlisted : ¬ (s.markers.all fun m => m.id ≠ c.markerId) = true := by simpa using hknown
  unfold setDone
  rw [hwrites, howned, if_neg Bool.false_ne_true, if_neg Bool.false_ne_true, if_neg hlisted]
  exact ⟨_, rfl⟩

/-- The flags of the store in memory. -/
def flags : (store : Store (MemoryStore α) α).Flags where
  isSet s scope characterId id := decide (⟨scope, characterOf scope characterId, id⟩ ∈ s.progress)
  isSet_of_obeyed := fun {s s' c} h => by
    have hprogress := (setDone_ok h).progress (keyOf c)
    rw [if_pos rfl] at hprogress
    rw [Bool.eq_iff_iff, decide_eq_true_iff]
    exact hprogress

/-- A listing shows the flags of the owner that its filter names. -/
theorem done_eq_isSet {s : MemoryStore α} {f : MarkerFilter} {ms : List (Marker α)}
    (h : s.listMarkers f = .ok ms) {m : Marker α} (hm : m ∈ ms) :
    m.done = flags.isSet s f.scope f.characterId m.id := by
  unfold listMarkers at h
  split at h
  · cases h
  split at h
  · cases h
  cases h
  obtain ⟨hlisted, -⟩ := List.mem_filter.mp hm
  obtain ⟨n, -, rfl⟩ := List.mem_map.mp hlisted
  rfl

end MemoryStore

/-! ## Flags in a database -/

namespace Archive

theorem setDone_ok {a a' : Archive} {now : Int64} {c : SetDone}
    (h : Archive.setDone now a c = .ok a') :
    ∃ db db', a = .opened db ∧ db.setDone now c = .ok db' ∧ a' = .opened db' := by
  cases a with
  | closed why =>
    cases howner : Owner.of? c.scope c.characterId <;> simp [Archive.setDone, howner] at h
  | opened db =>
    cases howner : Owner.of? c.scope c.characterId with
    | none => simp [Archive.setDone, howner] at h
    | some owner =>
      cases hset : db.setDone now c with
      | error why => simp [Archive.setDone, howner, hset, Except.map] at h
      | ok db' =>
        have ha' : opened db' = a' := by simpa [Archive.setDone, howner, hset, Except.map] using h
        exact ⟨db, db', rfl, hset, ha'.symm⟩

/-- Is the flag set? Without a database, or without an owner, no flag is. -/
def isSet (a : Archive) (scope : Scope) (characterId : Option String) (id : String) : Bool :=
  match a, Owner.of? scope characterId with
  | opened db, some owner => db.isDone owner id
  | _, _ => false

theorem isSet_opened {db : Database} {scope : Scope} {characterId : Option String} {owner : Owner}
    (h : Owner.of? scope characterId = some owner) (id : String) :
    (opened db).isSet scope characterId id = db.isDone owner id := by
  simp only [isSet, h]

/-- The flags of a database. -/
def flags (now : Int64) : (store now).Flags where
  isSet := isSet
  isSet_of_obeyed := fun {a a' c} h => by
    obtain ⟨db, db', rfl, hset, rfl⟩ := Archive.setDone_ok h
    obtain ⟨-, owner, howner, hisDone⟩ := Database.isDone_of_setDone hset
    rw [isSet_opened howner, hisDone, if_pos ⟨rfl, rfl⟩]

end Archive

end MarkerAtlas
