import Mathlib.Data.List.Nodup
import MarkerAtlas.Database.Progress

/-!
# Rows with keys

Markers have ids, flags have an owner and a marker, and a row that is written takes the place of
the one with its key. So no key ever occurs twice, and rows whose keys are new are simply added.
-/

namespace MarkerAtlas

/-! ## Putting a row in its place -/

section
variable {α κ : Type} [DecidableEq κ] (key : α → κ)

/-- Puts a row in the place of the first one with its key, or at the end. -/
def putBy (x : α) : List α → List α
  | [] => [x]
  | y :: ys => if key y = key x then x :: ys else y :: putBy x ys

theorem mem_putBy {x y : α} {rows : List α} (h : y ∈ putBy key x rows) : y = x ∨ y ∈ rows := by
  induction rows with
  | nil => exact .inl (List.mem_singleton.mp h)
  | cons z zs ih =>
    unfold putBy at h
    split at h
    · rcases List.mem_cons.mp h with rfl | hy
      · exact .inl rfl
      · exact .inr (List.mem_cons_of_mem z hy)
    · rcases List.mem_cons.mp h with rfl | hy
      · exact .inr List.mem_cons_self
      · exact (ih hy).imp_right (List.mem_cons_of_mem z)

/-- The keys stay in their places; a new one comes last. -/
theorem map_key_putBy (x : α) (rows : List α) :
    (putBy key x rows).map key =
      if key x ∈ rows.map key then rows.map key else rows.map key ++ [key x] := by
  induction rows with
  | nil => rfl
  | cons z zs ih =>
    unfold putBy
    -- The new row takes the place of `z`, or is looked for a place among the rest.
    by_cases hz : key z = key x
    · rw [if_pos hz, if_pos (by simp [hz]), List.map_cons, List.map_cons, hz]
    · rw [if_neg hz, List.map_cons, ih, List.map_cons]
      by_cases hx : key x ∈ zs.map key
      · rw [if_pos hx, if_pos (List.mem_cons_of_mem _ hx)]
      · rw [if_neg hx, if_neg (by simpa [Ne.symm hz] using hx), List.cons_append]

theorem nodup_putBy (x : α) {rows : List α} (h : (rows.map key).Nodup) :
    ((putBy key x rows).map key).Nodup := by
  rw [map_key_putBy]
  by_cases hx : key x ∈ rows.map key
  · rw [if_pos hx]
    exact h
  · rw [if_neg hx]
    exact h.append (List.nodup_singleton _) (by simpa using hx)

/-- A row whose key is new is added. -/
theorem putBy_eq_append {x : α} {rows : List α} (h : key x ∉ rows.map key) :
    putBy key x rows = rows ++ [x] := by
  induction rows with
  | nil => rfl
  | cons z zs ih =>
    rw [List.map_cons, List.mem_cons, not_or] at h
    unfold putBy
    rw [if_neg (Ne.symm h.1), ih h.2, List.cons_append]

omit [DecidableEq κ] in
/-- The first of some new rows is new. -/
theorem key_notMem_of_nodup {x : α} {rows new : List α}
    (h : ((rows ++ x :: new).map key).Nodup) : key x ∉ rows.map key := by
  rw [List.map_append, List.map_cons] at h
  intro hmem
  exact (List.nodup_append.mp h).2.2 _ hmem _ List.mem_cons_self rfl

theorem mem_keys_putBy {x : α} {rows : List α} {k : κ} :
    k ∈ (putBy key x rows).map key ↔ k = key x ∨ k ∈ rows.map key := by
  rw [map_key_putBy]
  split
  · next hx => exact ⟨.inr, fun h => h.elim (fun hk => hk ▸ hx) id⟩
  · rw [List.mem_append, List.mem_singleton, or_comm]

/-- A row is put among those that pass a test of their keys if its own key does. -/
theorem filter_putBy {p : α → Bool} {x : α} (hp : ∀ y, key y = key x → p y = p x)
    (rows : List α) :
    (putBy key x rows).filter p =
      if p x then putBy key x (rows.filter p) else rows.filter p := by
  induction rows with
  | nil => cases hx : p x <;> simp [putBy, hx]
  | cons y ys ih =>
    by_cases hy : key y = key x
    · -- The row takes the place of `y`, which passes just if the row does.
      rw [putBy, if_pos hy]
      cases hx : p x with
      | false => simp [hp y hy, hx]
      | true => simp [hp y hy, hx, putBy, hy]
    · rw [putBy, if_neg hy]
      cases hpy : p y with
      | false => simpa [hpy] using ih
      | true =>
        rw [List.filter_cons_of_pos hpy, List.filter_cons_of_pos hpy, ih]
        cases hx : p x with
        | false => simp
        | true => simp [putBy, hy]

end

/-! ## Markers and flags -/

theorem StoredMarker.upsert_eq_putBy (m : StoredMarker) (rows : List StoredMarker) :
    m.upsert rows = putBy (·.id) m rows := by
  induction rows with
  | nil => rfl
  | cons n ns ih => rw [upsert, putBy, ih]

/-- Whose flag on which marker. -/
def DoneFlag.key (f : DoneFlag) : Owner × String := (f.owner, f.markerId)

theorem DoneFlag.isFor_iff (owner : Owner) (id : String) (f : DoneFlag) :
    f.isFor owner id = true ↔ f.key = (owner, id) := by
  simp only [isFor, key, Bool.and_eq_true, decide_eq_true_eq, beq_iff_eq, Prod.mk.injEq]

theorem DoneFlag.upsert_eq_putBy (f : DoneFlag) (rows : List DoneFlag) :
    f.upsert rows = putBy key f rows := by
  induction rows with
  | nil => rfl
  | cons g gs ih =>
    rw [upsert, putBy, ih]
    exact if_congr (g.isFor_iff f.owner f.markerId) rfl rfl

namespace Database

theorem hasMarker_iff (db : Database) (id : String) :
    db.hasMarker id = true ↔ id ∈ db.markers.map (·.id) := by
  simp only [hasMarker, List.any_eq_true, beq_iff_eq, List.mem_map]

theorem isDone_iff (db : Database) (owner : Owner) (id : String) :
    db.isDone owner id = true ↔ (owner, id) ∈ db.flags.map DoneFlag.key := by
  simp only [isDone, List.any_eq_true, List.mem_map, Bool.and_eq_true, decide_eq_true_eq,
    beq_iff_eq, DoneFlag.key, Prod.mk.injEq]

/-! ## New rows -/

/-- Writing rows whose keys are new, one after another, adds them all and counts each as inserted,
if writing one such row does. The rest of the database stays as it is, so that only the rows of
this one kind are looked at. -/
theorem foldl_put_of_new {ρ κ : Type} (key : ρ → κ) (withRows : List ρ → Database)
    {put : Database × ImportReport → ρ → Database × ImportReport} {new : List ρ}
    (hput : ∀ rows r, ∀ x ∈ new, key x ∉ rows.map key → put (withRows rows, r) x =
      (withRows (rows ++ [x]), { r with inserted := r.inserted + 1 }))
    (rows : List ρ) (r : ImportReport) (hnd : ((rows ++ new).map key).Nodup) :
    new.foldl put (withRows rows, r) =
      (withRows (rows ++ new), { r with inserted := r.inserted + new.length }) := by
  -- Induction on the new rows: each becomes one of the rows that the next must differ from.
  induction new generalizing rows r with
  | nil => simp
  | cons x xs ih =>
    have hfirst := hput rows r x List.mem_cons_self (key_notMem_of_nodup key hnd)
    have hrest := fun rows r y hy => hput rows r y (List.mem_cons_of_mem x hy)
    rw [List.append_cons] at hnd
    rw [List.foldl_cons, hfirst, ih hrest (rows ++ [x]) _ hnd, List.append_cons rows x xs]
    simp only [List.length_cons, Nat.add_assoc, Nat.add_comm 1]

/-- Markers whose ids are new are added, and each is counted as inserted. -/
theorem foldl_putMarker_of_new (new : List StoredMarker) (db : Database) (r : ImportReport)
    (hnd : ((db.markers ++ new).map (·.id)).Nodup) :
    new.foldl putMarker (db, r) =
      ({ db with markers := db.markers ++ new },
        { r with inserted := r.inserted + new.length }) := by
  refine foldl_put_of_new StoredMarker.id (fun rows => { db with markers := rows })
    (fun rows r m _ hnew => ?_) db.markers r hnd
  have hunknown : ({ db with markers := rows } : Database).hasMarker m.id = false := by
    rw [Bool.eq_false_iff, Ne, hasMarker_iff]
    exact hnew
  simp only [putMarker, StoredMarker.upsert_eq_putBy, putBy_eq_append _ hnew, hunknown,
    ImportReport.count, Bool.false_eq_true, if_false]

/-- Flags whose keys are new, on markers that are stored, are added and counted as inserted. -/
theorem foldl_putFlag_of_new (new : List DoneFlag) (db : Database) (r : ImportReport)
    (hstored : ∀ f ∈ new, db.hasMarker f.markerId = true)
    (hnd : ((db.flags ++ new).map DoneFlag.key).Nodup) :
    new.foldl putFlag (db, r) =
      ({ db with flags := db.flags ++ new },
        { r with inserted := r.inserted + new.length }) := by
  refine foldl_put_of_new DoneFlag.key (fun rows => { db with flags := rows })
    (fun rows r f hf hnew => ?_) db.flags r hnd
  -- Flags do not decide which markers are stored.
  have hmarked : ({ db with flags := rows } : Database).hasMarker f.markerId = true := hstored f hf
  have hunset : ({ db with flags := rows } : Database).isDone f.owner f.markerId = false := by
    rw [Bool.eq_false_iff, Ne, isDone_iff]
    exact hnew
  simp only [putFlag, hmarked, if_true, DoneFlag.upsert_eq_putBy, putBy_eq_append _ hnew, hunset,
    ImportReport.count, Bool.false_eq_true, if_false]

end Database

end MarkerAtlas
