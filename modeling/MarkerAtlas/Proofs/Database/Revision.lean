import MarkerAtlas.Database.Listing
import MarkerAtlas.Proofs.Database.Flags

/-!
# What the revision tells

A call that takes a row or turns a flag around adds one entry to the log, and every other call
leaves the database as it is. So the revision never falls, and as long as it stays the same the
database does: whoever has seen a revision need not read again before the next one.
-/

namespace MarkerAtlas.Database

/-! ## Calls -/

/-- A call that may write to the database, at the time `now` where the time is kept. -/
inductive Write where
  | importMarkers (i : MarkerImport)
  | importProgress (now : Int64) (i : ProgressImport)
  | setDone (now : Int64) (c : SetDone)

/-- The database after a call. One that fails changes nothing. -/
def write (db : Database) : Write → Database
  | .importMarkers i => (db.importMarkers i).1
  | .importProgress now i => (db.importProgress now i).1
  | .setDone now c =>
    match db.setDone now c with
    | .error _ => db
    | .ok db' => db'

theorem write_setDone_of_error {db : Database} {now : Int64} {c : SetDone} {why : StoreFailure}
    (h : db.setDone now c = .error why) : db.write (.setDone now c) = db := by
  simp only [write, h]

theorem write_setDone_of_ok {db db' : Database} {now : Int64} {c : SetDone}
    (h : db.setDone now c = .ok db') : db.write (.setDone now c) = db' := by
  simp only [write, h]

/-- The database after some calls, one after another. -/
def writeAll (db : Database) (ws : List Write) : Database := ws.foldl write db

/-! ## What a single call comes to -/

/-- What is left of the database after a call: all of it, or something with one more entry in the
log. -/
def Extends (db db' : Database) : Prop := db' = db ∨ ∃ entry, db'.log = db.log ++ [entry]

/-- The row was refused, or it was taken and counted; nothing was logged. -/
def Counted (before after : Database × ImportReport) : Prop :=
  after = before ∨ (before.2.total < after.2.total ∧ after.1.log = before.1.log)

theorem Counted.trans {s s' s'' : Database × ImportReport} (h : Counted s s')
    (h' : Counted s' s'') : Counted s s'' := by
  rcases h with rfl | ⟨hlt, hlog⟩
  · exact h'
  · rcases h' with rfl | ⟨hlt', hlog'⟩
    · exact .inr ⟨hlt, hlog⟩
    · exact .inr ⟨Nat.lt_trans hlt hlt', hlog'.trans hlog⟩

theorem total_count (r : ImportReport) (known : Bool) : (r.count known).total = r.total + 1 := by
  cases known with
  | false => exact Nat.add_right_comm r.inserted 1 r.updated
  | true => rfl

theorem counted_putMarker (state : Database × ImportReport) (m : StoredMarker) :
    Counted state (putMarker state m) := by
  refine .inr ⟨?_, rfl⟩
  show state.2.total < (state.2.count (state.1.hasMarker m.id)).total
  rw [total_count]
  exact Nat.lt_succ_self _

theorem counted_putFlag (state : Database × ImportReport) (f : DoneFlag) :
    Counted state (putFlag state f) := by
  unfold putFlag
  by_cases hstored : state.1.hasMarker f.markerId = true
  · rw [if_pos hstored]
    refine .inr ⟨?_, rfl⟩
    rw [total_count]
    exact Nat.lt_succ_self _
  · rw [if_neg hstored]
    exact .inl rfl

/-- Rows that are put one after another are counted together. -/
theorem counted_foldl {ρ : Type} {put : Database × ImportReport → ρ → Database × ImportReport}
    (hput : ∀ state row, Counted state (put state row)) (rows : List ρ)
    (state : Database × ImportReport) : Counted state (rows.foldl put state) := by
  induction rows generalizing state with
  | nil => exact .inl rfl
  | cons row rows ih => exact (hput state row).trans (ih (put state row))

/-- An import is logged if it counted a row; if it counted none, it has changed nothing. -/
theorem Counted.extends {db : Database} {state : Database × ImportReport}
    (h : Counted (db, ⟨0, 0⟩) state) (entry : LogEntry) :
    db.Extends (if state.2.total > 0 then { state.1 with log := state.1.log ++ [entry] }
      else state.1) := by
  rcases h with rfl | ⟨hlt, hlog⟩
  · exact .inl rfl
  · have hpos : state.2.total > 0 := Nat.pos_of_ne_zero (Nat.ne_zero_of_lt hlt)
    rw [if_pos hpos]
    exact .inr ⟨entry, congrArg (· ++ [entry]) hlog⟩

theorem write_extends (db : Database) (w : Write) : db.Extends (db.write w) := by
  cases w with
  | importMarkers i => exact (counted_foldl counted_putMarker i.accepted (db, ⟨0, 0⟩)).extends _
  | importProgress now i =>
    exact (counted_foldl counted_putFlag (i.rows.filterMap (DoneFlag.ofRow? now))
      (db, ⟨0, 0⟩)).extends _
  | setDone now c =>
    cases hset : db.setDone now c with
    | error why => exact .inl (write_setDone_of_error hset)
    | ok db' =>
      rw [write_setDone_of_ok hset]
      obtain ⟨owner, -, -, ⟨-, rfl⟩ | hturned⟩ := setDone_ok hset
      · exact .inl rfl
      · exact .inr ⟨_, hturned.log⟩

theorem Extends.revision {db db' : Database} (h : db.Extends db') :
    db' = db ∨ db'.revision = db.revision + 1 := by
  rcases h with rfl | ⟨entry, hlog⟩
  · exact .inl rfl
  · refine .inr ?_
    rw [Database.revision, hlog, List.length_append]
    rfl

/-! ## Runs -/

/-- After any calls the revision is higher, or nothing has changed. -/
theorem writeAll_eq_or_lt (db : Database) (ws : List Write) :
    db.writeAll ws = db ∨ db.revision < (db.writeAll ws).revision := by
  induction ws generalizing db with
  | nil => exact .inl rfl
  | cons w ws ih =>
    show (db.write w).writeAll ws = db ∨ db.revision < ((db.write w).writeAll ws).revision
    -- A first call that changes nothing drops out. One that is logged puts the revision where no
    -- later call takes it back.
    rcases (db.write_extends w).revision with hsame | hnext
    · rw [hsame]
      exact ih db
    · rcases ih (db.write w) with hrest | hrest
      · rw [hrest, hnext]
        exact .inr (Nat.lt_succ_self _)
      · exact .inr (by omega)

/-- A command either turns a flag around and is logged, or leaves every flag and the log. -/
theorem write_setDone_cases (db : Database) (now : Int64) (c : SetDone) :
    ((∃ owner id, (db.write (.setDone now c)).isDone owner id ≠ db.isDone owner id) ∧
      (db.write (.setDone now c)).revision = db.revision + 1) ∨
    ((∀ owner id, (db.write (.setDone now c)).isDone owner id = db.isDone owner id) ∧
      (db.write (.setDone now c)).revision = db.revision) := by
  cases hset : db.setDone now c with
  | error why =>
    rw [write_setDone_of_error hset]
    exact .inr ⟨fun _ _ => rfl, rfl⟩
  | ok db' =>
    rw [write_setDone_of_ok hset]
    obtain ⟨owner, -, -, ⟨-, rfl⟩ | hturned⟩ := setDone_ok hset
    · exact .inr ⟨fun _ _ => rfl, rfl⟩
    · refine .inl ⟨⟨owner, c.markerId, ?_⟩, ?_⟩
      · rw [hturned.isDone, if_pos ⟨rfl, rfl⟩]
        exact hturned.wanted.symm
      · simp only [Database.revision, hturned.log, List.length_append, List.length_singleton]

/-- What the revision says of any database and of any calls that follow. It does not fall; if it is
the same after them, then so are the rows and with them every answer; and a single command raises
it, by one, exactly if it changes a flag. -/
theorem revision_tells_changes (db : Database) (ws : List Write) :
    db.revision ≤ (db.writeAll ws).revision ∧
    ((db.writeAll ws).revision = db.revision →
      (db.writeAll ws).markers = db.markers ∧ (db.writeAll ws).flags = db.flags ∧
      (∀ f : MarkerFilter, (db.writeAll ws).listMarkers f = db.listMarkers f) ∧
      (db.writeAll ws).exportMarkers = db.exportMarkers ∧
      (db.writeAll ws).exportProgress = db.exportProgress ∧
      (db.writeAll ws).listMaps = db.listMaps) ∧
    ∀ (now : Int64) (c : SetDone),
      ((∃ owner id, (db.write (.setDone now c)).isDone owner id ≠ db.isDone owner id) ∧
        (db.write (.setDone now c)).revision = db.revision + 1) ∨
      ((∀ owner id, (db.write (.setDone now c)).isDone owner id = db.isDone owner id) ∧
        (db.write (.setDone now c)).revision = db.revision) := by
  have hrun := db.writeAll_eq_or_lt ws
  refine ⟨?_, fun hsame => ?_, db.write_setDone_cases⟩
  · rcases hrun with hsame | hlt
    · exact Nat.le_of_eq (congrArg revision hsame).symm
    · exact Nat.le_of_lt hlt
  · rcases hrun with hdb | hlt
    · rw [hdb]
      exact ⟨rfl, rfl, fun _ => rfl, rfl, rfl, rfl⟩
    · omega

/-- A flag that is set already, a marker that is not stored, and a restored flag on a marker that
is not stored leave the revision and the flags as they are. -/
theorem revision_after_idle_calls :
    ∃ (db : Database) (ws : List Write), db.revision = 2 ∧ ws.length = 3 ∧
      (db.writeAll ws).revision = db.revision ∧
      (db.writeAll ws).exportProgress = db.exportProgress := by
  let chest : Json := .obj [("id", .str "a"), ("kind", .str "CUBE"), ("map", .str "Poeta"),
    ("name", .str "Chest")]
  let flag : Json := .obj [("scope", .str "ACCOUNT"), ("markerId", .str "b")]
  let db := empty.writeAll
    [.importMarkers ⟨[chest], none⟩, .setDone 5 ⟨.account, none, "a", true⟩]
  let ws : List Write := [.setDone 6 ⟨.account, some "Hero", "a", true⟩,
    .setDone 7 ⟨.account, none, "b", true⟩, .importProgress 8 ⟨[flag]⟩]
  have hrevision : db.revision = 2 := by decide +kernel
  have hsame : (db.writeAll ws).revision = db.revision := by decide +kernel
  exact ⟨db, ws, hrevision, rfl, hsame, ((revision_tells_changes db ws).2.1 hsame).2.2.2.2.1⟩

end MarkerAtlas.Database
