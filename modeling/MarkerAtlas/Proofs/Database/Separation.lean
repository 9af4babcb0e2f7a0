import MarkerAtlas.Proofs.Database.Permuted
import MarkerAtlas.Proofs.Database.Revision
import MarkerAtlas.Proofs.Database.Writes

/-!
# Owners do not interfere

The flags of the account and those of each character are kept side by side. What one owner can
read, by listings and by a backup, is as if the commands and the rows for all other owners had
never been sent. Commands, filters and rows each tell in their own way whose flags they are about.

## Observer

* `Write.only owner`: what an owner's own part of a call is.
* `SameFor owner`: two databases that the owner cannot tell apart.

One call keeps `SameFor`, whether it has a part for the owner or not; a run is an induction.
-/

namespace MarkerAtlas

/-! ## Whose flags -/

/-- Whose flag a row of a backup is about. -/
def DoneFlag.rowOwner? (row : Json) : Option Owner := do
  let scope ← (row.memberText? "scope").bind Scope.ofName?
  Owner.of? scope (row.memberText? "characterId")

/-- Whose flag a record of a backup is. -/
def ProgressRecord.owner? (r : ProgressRecord) : Option Owner := Owner.of? r.scope r.characterId

theorem DoneFlag.rowOwner?_of_ofRow? {now : Int64} {row : Json} {f : DoneFlag}
    (h : ofRow? now row = some f) : rowOwner? row = some f.owner := by
  simp only [ofRow?, Option.bind_eq_bind] at h
  obtain ⟨scope, hscope, h⟩ := Option.bind_eq_some_iff.mp h
  obtain ⟨markerId, -, h⟩ := Option.bind_eq_some_iff.mp h
  split at h
  · cases h
  · obtain ⟨owner, howner, hf⟩ := Option.bind_eq_some_iff.mp h
    cases hf
    simp only [rowOwner?, Option.bind_eq_bind, hscope, Option.bind_some, howner]

theorem DoneFlag.owner?_record {f : DoneFlag} (h : f.owner.Canonical) :
    f.record.owner? = some f.owner := h

/-- The account's flags are the same whatever character is named. -/
theorem Owner.of?_account (characterId : Option String) :
    of? .account characterId = some ⟨.account, ""⟩ := rfl

/-- A row for the account describes the same flag whatever character it names. -/
theorem DoneFlag.ofRow?_account (now : Int64) {row row' : Json}
    (hscope : (row.memberText? "scope").bind Scope.ofName? = some .account)
    (hrows : ∀ name, name ≠ "characterId" → row'.member? name = row.member? name) :
    ofRow? now row' = ofRow? now row := by
  -- The name of the character is looked at only in rows for a character.
  have hscope' : (row'.memberText? "scope").bind Scope.ofName? = some .account := by
    rw [Json.memberText?, hrows "scope" (by decide)]
    exact hscope
  have hmarker : row'.memberTrimmed? "markerId" = row.memberTrimmed? "markerId" := by
    rw [Json.memberTrimmed?, Json.memberText?, hrows "markerId" (by decide)]
    rfl
  have hdone : row'.member? "done" = row.member? "done" := hrows "done" (by decide)
  have htime : row'.member? "doneAtMs" = row.member? "doneAtMs" := hrows "doneAtMs" (by decide)
  simp only [ofRow?, hscope, hscope', hmarker, hdone, htime, Option.bind_eq_bind, Option.bind_some,
    Owner.of?_account]

namespace Database

/-- What a call has for an owner: imports of markers are for all, commands and rows for one. -/
def Write.only (owner : Owner) : Write → Option Write
  | .importMarkers i => some (.importMarkers i)
  | .importProgress now i =>
    some (.importProgress now ⟨i.rows.filter fun row => DoneFlag.rowOwner? row = some owner⟩)
  | .setDone now c =>
    if Owner.of? c.scope c.characterId = some owner then some (.setDone now c) else none

/-- The flags of an owner. -/
def flagsOf (db : Database) (owner : Owner) : List DoneFlag := db.flags.filter (·.owner = owner)

/-- The part of a backup that is about an owner holds the flags of the owner, in order. -/
theorem Canonical.exportProgress_filter {db : Database} (h : db.Canonical) (owner : Owner) :
    db.exportProgress.filter (·.owner? = some owner) =
      ((db.flagsOf owner).mergeSort DoneFlag.comesBefore).map (·.record) := by
  have hrecord : ∀ f ∈ db.flags.mergeSort DoneFlag.comesBefore,
      decide (f.record.owner? = some owner) = decide (f.owner = owner) := by
    intro f hf
    rw [DoneFlag.owner?_record (h.owners f (List.mem_mergeSort.mp hf)), decide_eq_decide,
      Option.some.injEq]
  -- No two flags come at the same place in a backup, so that taking some out keeps the order of the
  -- others.
  have hkey : ∀ f ∈ db.flags, ∀ g ∈ db.flags, f.sortKey = g.sortKey → f = g := by
    intro f hf g hg hfg
    obtain ⟨howner, hid⟩ := DoneFlag.eq_of_sortKey_eq hfg
    exact List.inj_on_of_nodup_map h.keys hf hg (Prod.ext howner hid)
  calc db.exportProgress.filter (·.owner? = some owner)
      = ((db.flags.mergeSort DoneFlag.comesBefore).filter
          fun f => f.record.owner? = some owner).map (·.record) := List.filter_map
    _ = ((db.flags.mergeSort DoneFlag.comesBefore).filter (·.owner = owner)).map (·.record) := by
        rw [List.filter_congr hrecord]
    _ = ((db.flagsOf owner).mergeSort DoneFlag.comesBefore).map (·.record) := by
        rw [DoneFlag.sortsBy_sortKey.filter_mergeSort hkey, flagsOf]

/-! ## The flags of one owner after a call -/

theorem flagsOf_putFlag (owner : Owner) (db : Database) (r : ImportReport) (f : DoneFlag) :
    (putFlag (db, r) f).1.flagsOf owner =
      if db.hasMarker f.markerId = true ∧ f.owner = owner then
        putBy DoneFlag.key f (db.flagsOf owner)
      else db.flagsOf owner := by
  unfold putFlag
  by_cases hstored : db.hasMarker f.markerId = true
  · -- The flag takes the place of one of the same owner, if there is one.
    have hkey : ∀ g : DoneFlag, g.key = f.key →
        decide (g.owner = owner) = decide (f.owner = owner) := by
      intro g hg
      rw [(Prod.mk.inj hg).1]
    rw [if_pos hstored]
    show (f.upsert db.flags).filter (·.owner = owner) = _
    rw [DoneFlag.upsert_eq_putBy, filter_putBy DoneFlag.key hkey]
    simp only [hstored, true_and, decide_eq_true_eq, flagsOf]
  · rw [if_neg hstored, if_neg (fun h => hstored h.1)]

theorem markers_putFlag (db : Database) (r : ImportReport) (f : DoneFlag) :
    (putFlag (db, r) f).1.markers = db.markers := by
  unfold putFlag
  split <;> rfl

/-- The rows about an owner hold the flags of the owner. -/
theorem filterMap_ofRow?_filter (now : Int64) (owner : Owner) (rows : List Json) :
    (rows.filter fun row => DoneFlag.rowOwner? row = some owner).filterMap (DoneFlag.ofRow? now) =
      (rows.filterMap (DoneFlag.ofRow? now)).filter (·.owner = owner) := by
  rw [List.filterMap_filter, List.filter_filterMap]
  congr 1
  funext row
  cases hrow : DoneFlag.ofRow? now row with
  | none => simp
  | some f => simp [DoneFlag.rowOwner?_of_ofRow? hrow, Option.filter]

/-- The flags after a command of an owner whose flag was the other way. -/
def turnFlag (now : Int64) (owner : Owner) (c : SetDone) (flags : List DoneFlag) : List DoneFlag :=
  if c.done then flags ++ [⟨owner, c.markerId, now⟩]
  else flags.filter fun f => !f.isFor owner c.markerId

theorem markers_setDone (db : Database) (now : Int64) (c : SetDone) :
    (db.write (.setDone now c)).markers = db.markers := by
  cases hset : db.setDone now c with
  | error why => rw [write_setDone_of_error hset]
  | ok db' =>
    rw [write_setDone_of_ok hset]
    exact (isDone_of_setDone hset).1

/-- A command turns a flag around if its marker is stored and the flag is the other way. -/
theorem flags_setDone (db : Database) (now : Int64) {owner : Owner} {c : SetDone}
    (hc : Owner.of? c.scope c.characterId = some owner) :
    (db.write (.setDone now c)).flags =
      if db.hasMarker c.markerId = true ∧ db.isDone owner c.markerId ≠ c.done then
        turnFlag now owner c db.flags
      else db.flags := by
  simp only [Database.write, Database.setDone, hc]
  by_cases hknown : db.hasMarker c.markerId = true
  · by_cases hsame : db.isDone owner c.markerId = c.done
    · simp [hknown, hsame]
    · simp [hknown, hsame, turnFlag]
  · simp [hknown]

theorem filter_turnFlag (now : Int64) (owner : Owner) (c : SetDone) (flags : List DoneFlag) :
    (turnFlag now owner c flags).filter (·.owner = owner) =
      turnFlag now owner c (flags.filter (·.owner = owner)) := by
  unfold turnFlag
  cases c.done with
  | false => exact List.filter_comm _ _ flags
  | true => simp

theorem filter_turnFlag_other (now : Int64) {owner other : Owner} (hother : other ≠ owner)
    (c : SetDone) (flags : List DoneFlag) :
    (turnFlag now other c flags).filter (·.owner = owner) = flags.filter (·.owner = owner) := by
  unfold turnFlag
  -- Clearing takes a flag of the other owner out, setting puts one in.
  cases c.done with
  | false =>
    simp only [Bool.false_eq_true, if_false, List.filter_filter]
    apply List.filter_congr
    intro f _
    by_cases hf : f.owner = owner
    · simp [hf, DoneFlag.isFor, hother.symm]
    · simp [hf]
  | true => simp [hother]

/-! ## Databases that look the same to an owner -/

/-- Two databases that an owner cannot tell apart: the log aside, they differ only in the flags of
other owners. -/
structure SameFor (owner : Owner) (db db' : Database) : Prop where
  markers : db.markers = db'.markers
  flags : db.flagsOf owner = db'.flagsOf owner

namespace SameFor

variable {owner : Owner} {db db' db'' : Database}

theorem refl (owner : Owner) (db : Database) : SameFor owner db db := ⟨rfl, rfl⟩

theorem trans (h : SameFor owner db db') (h' : SameFor owner db' db'') : SameFor owner db db'' :=
  ⟨h.markers.trans h'.markers, h.flags.trans h'.flags⟩

/-! ### What the owner reads -/

theorem hasMarker_eq (h : SameFor owner db db') (id : String) :
    db.hasMarker id = db'.hasMarker id := by
  rw [hasMarker, hasMarker, h.markers]

theorem isDone_eq (h : SameFor owner db db') (id : String) :
    db.isDone owner id = db'.isDone owner id := by
  have hown : ∀ db : Database, db.isDone owner id = (db.flagsOf owner).any (·.markerId == id) := by
    intro db
    rw [flagsOf, List.any_filter, isDone]
  rw [hown, hown, h.flags]

theorem listMarkers_eq (h : SameFor owner db db') {f : MarkerFilter}
    (hf : Owner.of? f.scope f.characterId = some owner) : db.listMarkers f = db'.listMarkers f := by
  have hsorted : db.sortedMarkers = db'.sortedMarkers := by
    rw [sortedMarkers, sortedMarkers, h.markers]
  refine listMarkers_congr hsorted fun o ho id => ?_
  obtain rfl := Option.some.inj (ho.symm.trans hf)
  exact h.isDone_eq id

theorem putFlag (h : SameFor owner db db') (r r' : ImportReport) (f : DoneFlag) :
    SameFor owner (putFlag (db, r) f).1 (putFlag (db', r') f).1 where
  markers := by rw [markers_putFlag, markers_putFlag, h.markers]
  flags := by rw [flagsOf_putFlag, flagsOf_putFlag, h.hasMarker_eq, h.flags]

/-- The owner does not see a flag that is restored for another. -/
theorem putFlag_other (r : ImportReport) {f : DoneFlag} (hf : f.owner ≠ owner) :
    SameFor owner (Database.putFlag (db, r) f).1 db where
  markers := markers_putFlag db r f
  flags := by rw [flagsOf_putFlag, if_neg (fun h => hf h.2)]

theorem withLog (h : SameFor owner db db') (log log' : List LogEntry) :
    SameFor owner { db with log := log } { db' with log := log' } := ⟨h.markers, h.flags⟩

/-! ### Single calls -/

/-- An import of markers is the same for every owner. -/
theorem importMarkers (h : SameFor owner db db') (i : MarkerImport) :
    SameFor owner (db.importMarkers i).1 (db'.importMarkers i).1 := by
  have hput : ∀ m ∈ i.accepted, ∀ s s' : Database × ImportReport, SameFor owner s.1 s'.1 →
      SameFor owner (putMarker s m).1 (putMarker s' m).1 := by
    intro m _ s s' hs
    exact ⟨congrArg m.upsert hs.markers, hs.flags⟩
  -- The two runs are taken together, from row to row.
  have hfold : SameFor owner (i.accepted.foldl putMarker (db, ⟨0, 0⟩)).1
      (i.accepted.foldl putMarker (db', ⟨0, 0⟩)).1 := by
    apply List.foldl_rel
      (r := fun s s' : Database × ImportReport => SameFor owner s.1 s'.1)
    · exact h
    · exact hput
  obtain ⟨log, hlog⟩ := db.importMarkers_eq_foldl i
  obtain ⟨log', hlog'⟩ := db'.importMarkers_eq_foldl i
  rw [hlog, hlog']
  exact hfold.withLog log log'

/-- Of an import of progress an owner sees the rows that are about the owner. -/
theorem importProgress (h : SameFor owner db db') (now : Int64) (i : ProgressImport) :
    SameFor owner (db.importProgress now i).1 (db'.importProgress now
      ⟨i.rows.filter fun row => DoneFlag.rowOwner? row = some owner⟩).1 := by
  -- The second database is written a flag or left alone, as the flag is the owner's or another's.
  have hput : ∀ f ∈ i.rows.filterMap (DoneFlag.ofRow? now), ∀ s s' : Database × ImportReport,
      SameFor owner s.1 s'.1 → SameFor owner (Database.putFlag s f).1
        (if decide (f.owner = owner) = true then Database.putFlag s' f else s').1 := by
    intro f _ s s' hs
    by_cases hf : f.owner = owner
    · rw [if_pos (decide_eq_true hf)]
      exact hs.putFlag s.2 s'.2 f
    · rw [if_neg (by simpa using hf)]
      exact (putFlag_other s.2 hf).trans hs
  have hfold : SameFor owner
      ((i.rows.filterMap (DoneFlag.ofRow? now)).foldl Database.putFlag (db, ⟨0, 0⟩)).1
      ((i.rows.filterMap (DoneFlag.ofRow? now)).foldl
        (fun s f => if decide (f.owner = owner) = true then Database.putFlag s f else s)
        (db', ⟨0, 0⟩)).1 := by
    apply List.foldl_rel
      (r := fun s s' : Database × ImportReport => SameFor owner s.1 s'.1)
    · exact h
    · exact hput
  obtain ⟨log, hlog⟩ := db.importProgress_eq_foldl now i
  obtain ⟨log', hlog'⟩ := db'.importProgress_eq_foldl now
    ⟨i.rows.filter fun row => DoneFlag.rowOwner? row = some owner⟩
  rw [hlog, hlog', filterMap_ofRow?_filter, List.foldl_filter]
  exact hfold.withLog log log'

/-- A command for the owner does the same to both databases. -/
theorem setDone (h : SameFor owner db db') (now : Int64) {c : SetDone}
    (hc : Owner.of? c.scope c.characterId = some owner) :
    SameFor owner (db.write (.setDone now c)) (db'.write (.setDone now c)) where
  markers := by rw [markers_setDone, markers_setDone, h.markers]
  flags := by
    have hturned : (turnFlag now owner c db.flags).filter (·.owner = owner) =
        (turnFlag now owner c db'.flags).filter (·.owner = owner) := by
      rw [filter_turnFlag, filter_turnFlag]
      exact congrArg (turnFlag now owner c) h.flags
    -- Whether the command changes anything is decided by the markers and by the flag of this owner.
    rw [flagsOf, flagsOf, flags_setDone db now hc, flags_setDone db' now hc, h.hasMarker_eq,
      h.isDone_eq]
    split
    · exact hturned
    · exact h.flags

/-- The owner does not see a command for another, or for nobody. -/
theorem setDone_other (db : Database) (now : Int64) {c : SetDone}
    (hc : Owner.of? c.scope c.characterId ≠ some owner) :
    SameFor owner (db.write (.setDone now c)) db where
  markers := markers_setDone db now c
  flags := by
    -- A command for nobody fails, one for another owner turns that one's flag.
    cases hother : Owner.of? c.scope c.characterId with
    | none =>
      have hfails : db.setDone now c = .error .noCharacter := by rw [Database.setDone, hother]
      rw [write_setDone_of_error hfails]
    | some other =>
      have hne : other ≠ owner := fun heq => hc (heq ▸ hother)
      rw [flagsOf, flags_setDone db now hother]
      split
      · exact filter_turnFlag_other now hne c db.flags
      · rfl

/-- A call does to one database what its part for the owner, if there is one, does to the other. -/
theorem write (h : SameFor owner db db') (w : Write) :
    SameFor owner (db.write w) ((w.only owner).elim db' db'.write) := by
  cases w with
  | importMarkers i => exact h.importMarkers i
  | importProgress now i => exact h.importProgress now i
  | setDone now c =>
    by_cases hc : Owner.of? c.scope c.characterId = some owner
    · rw [Write.only, if_pos hc]
      exact h.setDone now hc
    · rw [Write.only, if_neg hc]
      exact (setDone_other db now hc).trans h

/-! ### Runs -/

theorem writeAll (h : SameFor owner db db') (ws : List Write) :
    SameFor owner (db.writeAll ws) (db'.writeAll (ws.filterMap (Write.only owner))) := by
  -- By induction on the calls; one of which the owner sees nothing is left out of the second run.
  induction ws generalizing db db' with
  | nil => exact h
  | cons w ws ih =>
    have hstep := h.write w
    cases hw : w.only owner with
    | none =>
      rw [hw] at hstep
      rw [List.filterMap_cons_none hw]
      exact ih hstep
    | some own =>
      rw [hw] at hstep
      rw [List.filterMap_cons_some hw]
      exact ih hstep

end SameFor

theorem Reachable.writeAll {db : Database} (h : Reachable db) (ws : List Write) :
    Reachable (db.writeAll ws) := by
  induction ws generalizing db with
  | nil => exact h
  | cons w ws ih =>
    apply ih
    cases w with
    | importMarkers i => exact .importMarkers i h
    | importProgress now i => exact .importProgress now i h
    | setDone now c =>
      cases hset : db.setDone now c with
      | error why =>
        rw [write_setDone_of_error hset]
        exact h
      | ok db' =>
        rw [write_setDone_of_ok hset]
        exact .setDone now c h hset

/-! ## The account -/

/-- A command for the account does the same whatever character it names. -/
theorem flags_setDone_account (db : Database) (now : Int64) {c : SetDone}
    (hc : c.scope = .account) (characterId : Option String) :
    (db.write (.setDone now { c with characterId := characterId })).flags =
      (db.write (.setDone now c)).flags := by
  have hown : Owner.of? c.scope c.characterId = some ⟨.account, ""⟩ := by
    rw [hc, Owner.of?_account]
  have hother : Owner.of? c.scope characterId = some ⟨.account, ""⟩ := by
    rw [hc, Owner.of?_account]
  rw [flags_setDone db now hown,
    flags_setDone db now (c := { c with characterId := characterId }) hother]
  rfl

theorem listMarkers_account (db : Database) {f : MarkerFilter} (hf : f.scope = .account)
    (characterId : Option String) :
    db.listMarkers { f with characterId := characterId } = db.listMarkers f := by
  have hown : Owner.of? f.scope f.characterId = some ⟨.account, ""⟩ := by
    rw [hf, Owner.of?_account]
  have hother : Owner.of? f.scope characterId = some ⟨.account, ""⟩ := by
    rw [hf, Owner.of?_account]
  simp only [listMarkers, hown, hother]
  rfl

/-! ## Separation -/

/-- What an owner reads after any calls is what the owner would read without the commands and the
rows for others: every listing under a filter that names the owner, however it spells the id, and
the part of a backup that is about the owner. And the account's flags are set, restored and listed
whatever character is named. -/
theorem owners_do_not_interfere (owner : Owner) (ws : List Write) :
    let all := empty.writeAll ws
    let own := empty.writeAll (ws.filterMap (Write.only owner))
    (∀ f : MarkerFilter, Owner.of? f.scope f.characterId = some owner →
      all.listMarkers f = own.listMarkers f) ∧
    all.exportProgress.filter (·.owner? = some owner) =
      own.exportProgress.filter (·.owner? = some owner) ∧
    (∀ f : MarkerFilter, f.scope = .account → ∀ characterId,
      all.listMarkers { f with characterId := characterId } = all.listMarkers f) ∧
    (∀ now (c : SetDone), c.scope = .account → ∀ characterId,
      (all.write (.setDone now { c with characterId := characterId })).flags =
        (all.write (.setDone now c)).flags) ∧
    ∀ now (row row' : Json), (row.memberText? "scope").bind Scope.ofName? = some .account →
      (∀ name, name ≠ "characterId" → row'.member? name = row.member? name) →
      DoneFlag.ofRow? now row' = DoneFlag.ofRow? now row := by
  intro all own
  -- All that the owner reads is told by the markers and by the flags of this owner, which both runs
  -- leave the same.
  have hsame : SameFor owner all own := (SameFor.refl owner empty).writeAll ws
  have hall : all.Canonical := (Reachable.empty.writeAll ws).canonical
  have hown : own.Canonical := (Reachable.empty.writeAll _).canonical
  refine ⟨fun f hf => hsame.listMarkers_eq hf, ?_, fun f hf => all.listMarkers_account hf,
    fun now c hc => all.flags_setDone_account now hc, fun now row row' => ?_⟩
  · rw [hall.exportProgress_filter, hown.exportProgress_filter, hsame.flags]
  · exact DoneFlag.ofRow?_account now

/-- A character whose id is spelled with blanks, beside the account, which is sent the same id, and
another character. -/
theorem padded_character_beside_others :
    ∃ (ws : List Write) (owner : Owner) (f : MarkerFilter),
      Owner.of? f.scope f.characterId = some owner ∧ ws.length = 5 ∧
      (ws.filterMap (Write.only owner)).length = 3 ∧
      ((empty.writeAll ws).listMarkers f).map (·.map (·.done)) = .ok [true] ∧
      (empty.writeAll ws).flags.length = 3 ∧
      (empty.writeAll ws).listMarkers f =
        (empty.writeAll (ws.filterMap (Write.only owner))).listMarkers f := by
  let chest : Json := .obj [("id", .str "a"), ("kind", .str "CUBE"), ("map", .str "Poeta"),
    ("name", .str "Chest")]
  let own : Json :=
    .obj [("scope", .str "CHARACTER"), ("characterId", .str " Hero"), ("markerId", .str "a")]
  let other : Json :=
    .obj [("scope", .str "CHARACTER"), ("characterId", .str "Twin"), ("markerId", .str "a")]
  let ws : List Write := [.importMarkers ⟨[chest], none⟩,
    .setDone 5 ⟨.account, some "Hero", "a", true⟩, .importProgress 6 ⟨[other, own]⟩,
    .setDone 7 ⟨.character, some "Twin ", "a", true⟩,
    .setDone 8 ⟨.character, some "Hero ", "a", true⟩]
  let owner : Owner := ⟨.character, "Hero"⟩
  let f : MarkerFilter :=
    { MarkerFilter.all with scope := .character, characterId := some " Hero " }
  have hf : Owner.of? f.scope f.characterId = some owner := by decide +kernel
  have hown : (ws.filterMap (Write.only owner)).length = 3 := by decide +kernel
  have hlisted : ((empty.writeAll ws).listMarkers f).map (·.map (·.done)) = .ok [true] := by
    decide +kernel
  have hall : (empty.writeAll ws).flags.length = 3 := by decide +kernel
  exact ⟨ws, owner, f, hf, rfl, hown, hlisted, hall, (owners_do_not_interfere owner ws).1 f hf⟩

end Database

end MarkerAtlas
