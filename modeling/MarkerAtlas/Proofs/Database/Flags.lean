import MarkerAtlas.Proofs.Database.Rows

/-!
# What a command does to the flags

A command that is obeyed names an owner and a marker that is stored. Then either its flag is as it
is wanted already, and nothing happens, or this one flag is turned around and the command is
logged.
-/

namespace MarkerAtlas.Database

/-- The flag of a command was not as it is wanted, and now is; no other flag has changed. -/
structure Turned (db : Database) (owner : Owner) (c : SetDone) (db' : Database) : Prop where
  wanted : db.isDone owner c.markerId ≠ c.done
  markers : db'.markers = db.markers
  log : db'.log = db.log ++ [.flagChanged c]
  isDone : ∀ owner' id, db'.isDone owner' id =
    if owner' = owner ∧ id = c.markerId then c.done else db.isDone owner' id

theorem turned_set {db : Database} {owner : Owner} {c : SetDone} (hdone : c.done = true)
    (hunset : db.isDone owner c.markerId ≠ true) (now : Int64) :
    db.Turned owner c { db with
      flags := db.flags ++ [⟨owner, c.markerId, now⟩], log := db.log ++ [.flagChanged c] } where
  wanted := by rwa [hdone]
  markers := rfl
  log := rfl
  isDone := fun owner' id => by
    rw [Bool.eq_iff_iff, isDone_iff, List.map_append, List.mem_append, ← isDone_iff, hdone]
    by_cases hkey : owner' = owner ∧ id = c.markerId
    · simp [hkey, DoneFlag.key]
    · simp [hkey, DoneFlag.key]

theorem turned_cleared {db : Database} {owner : Owner} {c : SetDone} (hdone : c.done = false)
    (hset : db.isDone owner c.markerId ≠ false) :
    db.Turned owner c { db with
      flags := db.flags.filter fun f => !f.isFor owner c.markerId
      log := db.log ++ [.flagChanged c] } where
  wanted := by rwa [hdone]
  markers := rfl
  log := rfl
  isDone := fun owner' id => by
    rw [Bool.eq_iff_iff, isDone_iff]
    by_cases hkey : owner' = owner ∧ id = c.markerId
    · -- No flag with the command's key is left.
      obtain ⟨rfl, rfl⟩ := hkey
      simp [hdone, ← DoneFlag.isFor_iff]
    · rw [if_neg hkey, isDone_iff, List.mem_map, List.mem_map]
      constructor
      · rintro ⟨f, hf, hfkey⟩
        exact ⟨f, (List.mem_filter.mp hf).1, hfkey⟩
      · rintro ⟨f, hf, hfkey⟩
        refine ⟨f, List.mem_filter.mpr ⟨hf, ?_⟩, hfkey⟩
        rw [Bool.not_eq_true', Bool.eq_false_iff, Ne, DoneFlag.isFor_iff, hfkey]
        exact fun heq => hkey (Prod.mk.inj heq)

/-- What it says of a command that it was obeyed. -/
theorem setDone_ok {db db' : Database} {now : Int64} {c : SetDone}
    (h : db.setDone now c = .ok db') :
    ∃ owner, Owner.of? c.scope c.characterId = some owner ∧ db.hasMarker c.markerId = true ∧
      ((db.isDone owner c.markerId = c.done ∧ db' = db) ∨ db.Turned owner c db') := by
  unfold setDone at h
  cases howner : Owner.of? c.scope c.characterId with
  | none =>
    rw [howner] at h
    cases h
  | some owner =>
    rw [howner] at h
    by_cases hknown : db.hasMarker c.markerId = true
    · refine ⟨owner, rfl, hknown, ?_⟩
      by_cases hsame : db.isDone owner c.markerId = c.done
      · simp only [hknown, hsame, Bool.not_true, Bool.false_eq_true, if_false, if_true] at h
        cases h
        exact .inl ⟨hsame, rfl⟩
      · simp only [hknown, hsame, Bool.not_true, Bool.false_eq_true, if_false] at h
        cases h
        cases hdone : c.done with
        | false => exact .inr (turned_cleared hdone (hdone ▸ hsame))
        | true => exact .inr (turned_set hdone (hdone ▸ hsame) now)
    · simp only [hknown, Bool.not_false, if_true] at h
      cases h

/-- A command that is obeyed keeps the markers, and leaves its own flag as it is wanted and every
other flag as it was. -/
theorem isDone_of_setDone {db db' : Database} {now : Int64} {c : SetDone}
    (h : db.setDone now c = .ok db') : db'.markers = db.markers ∧
      ∃ owner, Owner.of? c.scope c.characterId = some owner ∧ ∀ owner' id,
        db'.isDone owner' id =
          if owner' = owner ∧ id = c.markerId then c.done else db.isDone owner' id := by
  obtain ⟨owner, howner, -, ⟨hsame, rfl⟩ | hturned⟩ := setDone_ok h
  · refine ⟨rfl, owner, howner, fun owner' id => ?_⟩
    split
    · next hkey => rw [hkey.1, hkey.2, hsame]
    · rfl
  · exact ⟨hturned.markers, owner, howner, hturned.isDone⟩

end MarkerAtlas.Database
