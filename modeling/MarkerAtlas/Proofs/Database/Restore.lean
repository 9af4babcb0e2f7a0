import MarkerAtlas.Proofs.Database.Merge

/-!
# Restoring progress merges flags

A row of a backup is usable if it names a scope, the owner that the scope asks for and a marker that
is stored, and does not say that the marker is not done. The flags of the usable rows are merged
into those that are set: none is cleared, and of two rows for one owner and marker the later one
gives the time.
-/

namespace MarkerAtlas

namespace Json

theorem memberText?_eq_some_iff {name s : String} {row : Json} :
    row.memberText? name = some s ↔ row.member? name = some (.str s) := by
  unfold memberText?
  cases row.member? name with
  | none => simp
  | some v => cases v <;> simp [text?]

theorem memberTrimmed?_eq_some_iff {name s : String} {row : Json} :
    row.memberTrimmed? name = some s ↔
      ∃ text, row.member? name = some (.str text) ∧ Text.trim text = s ∧ s ≠ "" := by
  simp only [memberTrimmed?, Option.bind_eq_some_iff, memberText?_eq_some_iff,
    Text.trimmed?_eq_some_iff]

theorem memberBool?_eq_some_iff {name : String} {row : Json} {b : Bool} :
    (row.member? name).bind bool? = some b ↔ row.member? name = some (.bool b) := by
  cases row.member? name with
  | none => simp
  | some v => cases v <;> simp [bool?]

end Json

theorem Scope.ofName?_eq_some_iff {s : String} {scope : Scope} :
    ofName? s = some scope ↔ Text.trim s = scope.name := by
  unfold ofName? names
  by_cases haccount : Text.trim s = "ACCOUNT"
  · cases scope <;> simp [haccount, Scope.name]
  · by_cases hcharacter : Text.trim s = "CHARACTER"
    · cases scope <;> simp [hcharacter, Scope.name]
    · have ha : ¬ "ACCOUNT" = Text.trim s := fun h => haccount h.symm
      have hc : ¬ "CHARACTER" = Text.trim s := fun h => hcharacter h.symm
      cases scope <;> simp [haccount, hcharacter, ha, hc, Scope.name]

namespace Database

/-! ## Usable rows -/

/-- What a scope and the row's `characterId` say of whose flag it is: the account's, whatever that
member holds, or that of the character it names. -/
def OwnedBy (owner : Owner) (row : Json) : Prop :=
  match owner.scope with
  | .account => owner.name = ""
  | .character => ∃ text, row.member? "characterId" = some (.str text) ∧
      Text.trim text = owner.name ∧ owner.name ≠ ""

/-- A row of a backup can be used, at the time `now`, and is for this flag. -/
structure Usable (db : Database) (now : Int64) (row : Json) (f : DoneFlag) : Prop where
  scope : ∃ text, row.member? "scope" = some (.str text) ∧ Text.trim text = f.owner.scope.name
  owner : OwnedBy f.owner row
  marker : ∃ text, row.member? "markerId" = some (.str text) ∧ Text.trim text = f.markerId ∧
    f.markerId ≠ ""
  stored : ∃ m ∈ db.markers, m.id = f.markerId
  done : row.member? "done" ≠ some (.bool false)
  time : f.doneAtMs = ((row.member? "doneAtMs").bind Json.int64?).getD now

/-- The flag that a row of a backup restores, if its marker is stored. -/
def restored? (db : Database) (now : Int64) (row : Json) : Option DoneFlag :=
  (DoneFlag.ofRow? now row).filter fun f => db.hasMarker f.markerId

theorem Owner.of?_eq_some_iff {owner : Owner} {row : Json} {scope : Scope} :
    Owner.of? scope (row.memberText? "characterId") = some owner ↔
      owner.scope = scope ∧ OwnedBy owner row := by
  obtain ⟨scope', name⟩ := owner
  have hof : Owner.of? scope (row.memberText? "characterId") = some ⟨scope', name⟩ ↔
      scope = scope' ∧ scope.owner? (row.memberText? "characterId") = some name := by
    simp only [Owner.of?, Option.map_eq_some_iff, Owner.mk.injEq]
    constructor
    · rintro ⟨_, hname, hscope, rfl⟩
      exact ⟨hscope, hname⟩
    · rintro ⟨hscope, hname⟩
      exact ⟨name, hname, hscope, rfl⟩
  rw [hof, eq_comm]
  refine and_congr_right fun hscope => ?_
  obtain rfl : scope' = scope := hscope
  cases scope' with
  | account => exact Option.some_inj.trans eq_comm
  | character => exact Json.memberTrimmed?_eq_some_iff

theorem ofRow?_eq_some_iff {now : Int64} {row : Json} {f : DoneFlag} :
    DoneFlag.ofRow? now row = some f ↔
      (row.memberText? "scope").bind Scope.ofName? = some f.owner.scope ∧
      row.memberTrimmed? "markerId" = some f.markerId ∧
      ¬ (row.member? "done").bind Json.bool? = some false ∧
      OwnedBy f.owner row ∧
      f.doneAtMs = ((row.member? "doneAtMs").bind Json.int64?).getD now := by
  obtain ⟨owner, markerId, doneAtMs⟩ := f
  simp only [DoneFlag.ofRow?, Option.bind_eq_bind, Option.bind_eq_some_iff]
  constructor
  · rintro ⟨scope, hscope, id, hid, h⟩
    split at h
    · cases h
    · rename_i hdone
      obtain ⟨owner', howner, hf⟩ := Option.bind_eq_some_iff.mp h
      obtain ⟨rfl, rfl, rfl⟩ := DoneFlag.mk.inj (Option.some.inj hf)
      obtain ⟨rfl, howned⟩ := Owner.of?_eq_some_iff.mp howner
      exact ⟨hscope, hid, hdone, howned, rfl⟩
  · rintro ⟨hscope, hid, hdone, howned, rfl⟩
    refine ⟨owner.scope, hscope, markerId, hid, ?_⟩
    rw [if_neg hdone, Owner.of?_eq_some_iff.mpr ⟨rfl, howned⟩]
    rfl

/-- The flags that are restored are those of the usable rows. -/
theorem restored?_eq_some_iff (db : Database) (now : Int64) (row : Json) (f : DoneFlag) :
    db.restored? now row = some f ↔ db.Usable now row f := by
  have hstored : db.hasMarker f.markerId = true ↔ ∃ m ∈ db.markers, m.id = f.markerId := by
    rw [hasMarker_iff, List.mem_map]
  have hscope : (row.memberText? "scope").bind Scope.ofName? = some f.owner.scope ↔
      ∃ text, row.member? "scope" = some (.str text) ∧
        Text.trim text = f.owner.scope.name := by
    simp only [Option.bind_eq_some_iff, Json.memberText?_eq_some_iff, Scope.ofName?_eq_some_iff]
  rw [restored?, Option.filter_eq_some_iff, ofRow?_eq_some_iff, hstored, hscope,
    Json.memberTrimmed?_eq_some_iff, Json.memberBool?_eq_some_iff]
  constructor
  · rintro ⟨⟨hscope, hmarker, hdone, howner, htime⟩, hstored⟩
    exact ⟨hscope, howner, hmarker, hstored, hdone, htime⟩
  · rintro ⟨hscope, howner, hmarker, hstored, hdone, htime⟩
    exact ⟨⟨hscope, hmarker, hdone, howner, htime⟩, hstored⟩

/-! ## Putting flags -/

/-- Flags on markers that are not stored are passed over. -/
theorem foldl_putFlag_filter (new : List DoneFlag) (db : Database) (flags : List DoneFlag)
    (r : ImportReport) :
    new.foldl putFlag ({ db with flags := flags }, r) =
      (new.filter fun f => db.hasMarker f.markerId).foldl putFlag
        ({ db with flags := flags }, r) := by
  induction new generalizing flags r with
  | nil => rfl
  | cons f new ih =>
    -- Flags do not decide which markers are stored.
    have hput : putFlag ({ db with flags := flags }, r) f =
        if db.hasMarker f.markerId then
          ({ db with flags := f.upsert flags },
            r.count (({ db with flags := flags } : Database).isDone f.owner f.markerId))
        else ({ db with flags := flags }, r) := rfl
    by_cases hstored : db.hasMarker f.markerId = true
    · have hkept : (f :: new).filter (fun f => db.hasMarker f.markerId) =
          f :: new.filter fun f => db.hasMarker f.markerId := List.filter_cons_of_pos hstored
      rw [hkept, List.foldl_cons, List.foldl_cons, hput, if_pos hstored]
      exact ih _ _
    · have hpassed : (f :: new).filter (fun f => db.hasMarker f.markerId) =
          new.filter fun f => db.hasMarker f.markerId := List.filter_cons_of_neg hstored
      rw [hpassed, List.foldl_cons, hput, if_neg hstored]
      exact ih _ _

theorem foldl_putFlag {new : List DoneFlag} {db : Database}
    (hstored : ∀ f ∈ new, db.hasMarker f.markerId = true) :
    ∃ r, new.foldl putFlag (db, ⟨0, 0⟩) =
        ({ db with flags := putAll DoneFlag.key new db.flags }, r) ∧
      r.inserted = (newKeys DoneFlag.key new db.flags).length ∧ r.total = new.length := by
  refine foldl_put DoneFlag.key (fun rows => { db with flags := rows })
    (fun rows r f hf => ⟨_, isDone_iff { db with flags := rows } f.owner f.markerId, ?_⟩) db.flags
  have hmarked : ({ db with flags := rows } : Database).hasMarker f.markerId = true := hstored f hf
  simp only [putFlag, hmarked, if_true, DoneFlag.upsert_eq_putBy]

/-- An import of progress puts the flags of its usable rows, and logs itself if there are any. -/
theorem importProgress_eq (db : Database) (now : Int64) (rows : List Json) :
    (db.importProgress now ⟨rows⟩).1 =
        { db with
          flags := putAll DoneFlag.key (rows.filterMap (db.restored? now)) db.flags
          log := if (db.importProgress now ⟨rows⟩).2.total > 0 then
            db.log ++ [.progressImported (db.importProgress now ⟨rows⟩).2] else db.log } ∧
      (db.importProgress now ⟨rows⟩).2.inserted =
        (newKeys DoneFlag.key (rows.filterMap (db.restored? now)) db.flags).length ∧
      (db.importProgress now ⟨rows⟩).2.total = (rows.filterMap (db.restored? now)).length := by
  have hrestored : rows.filterMap (db.restored? now) =
      (rows.filterMap (DoneFlag.ofRow? now)).filter fun f => db.hasMarker f.markerId := by
    rw [List.filter_filterMap]
    rfl
  have hstored : ∀ f ∈ rows.filterMap (db.restored? now), db.hasMarker f.markerId = true := by
    intro f hf
    rw [hrestored] at hf
    exact (List.mem_filter.mp hf).2
  obtain ⟨r, hfold, hinserted, htotal⟩ := foldl_putFlag hstored
  have hall : (rows.filterMap (DoneFlag.ofRow? now)).foldl putFlag (db, ⟨0, 0⟩) =
      ({ db with flags := putAll DoneFlag.key (rows.filterMap (db.restored? now)) db.flags },
        r) := by
    rw [← hfold, hrestored]
    exact foldl_putFlag_filter _ db db.flags ⟨0, 0⟩
  simp only [importProgress, hall]
  refine ⟨?_, hinserted, htotal⟩
  split <;> rfl

theorem merges_importProgress {db : Database} (h : db.Canonical) (now : Int64) (rows : List Json) :
    Merges DoneFlag.key (rows.filterMap (db.restored? now)) db.flags
      (db.importProgress now ⟨rows⟩).1.flags (db.importProgress now ⟨rows⟩).2 := by
  obtain ⟨hdb, hinserted, htotal⟩ := db.importProgress_eq now rows
  rw [hdb]
  exact merges_putAll _ h.keys hinserted htotal

/-- Rows for different keys can be given in any order: the report, the log and the markers are the
same, and so are the flags, up to the order they are kept in. -/
theorem importProgress_perm {db : Database} (h : db.Canonical) (now : Int64)
    {rows rows' : List Json} (hperm : rows.Perm rows')
    (hdistinct : ((rows.filterMap (db.restored? now)).map DoneFlag.key).Nodup) :
    (db.importProgress now ⟨rows'⟩).2 = (db.importProgress now ⟨rows⟩).2 ∧
      (db.importProgress now ⟨rows'⟩).1.markers = (db.importProgress now ⟨rows⟩).1.markers ∧
      (db.importProgress now ⟨rows'⟩).1.log = (db.importProgress now ⟨rows⟩).1.log ∧
      (db.importProgress now ⟨rows'⟩).1.flags.Perm (db.importProgress now ⟨rows⟩).1.flags := by
  have hflags : (rows.filterMap (db.restored? now)).Perm (rows'.filterMap (db.restored? now)) :=
    hperm.filterMap _
  obtain ⟨hdb, hinserted, htotal⟩ := db.importProgress_eq now rows
  obtain ⟨hdb', hinserted', htotal'⟩ := db.importProgress_eq now rows'
  have hreport : (db.importProgress now ⟨rows'⟩).2 = (db.importProgress now ⟨rows⟩).2 := by
    rw [← length_newKeys_of_perm _ hflags, ← hinserted] at hinserted'
    rw [← hflags.length_eq, ← htotal] at htotal'
    simp only [ImportReport.total] at htotal'
    rw [hinserted', Nat.add_left_cancel_iff] at htotal'
    exact ImportReport.mk.injEq .. ▸ ⟨hinserted', htotal'⟩
  refine ⟨hreport, ?_, ?_, ?_⟩
  · rw [hdb, hdb']
  · rw [hdb, hdb', hreport]
  · rw [hdb, hdb']
    exact (putAll_perm _ h.keys hdistinct hflags).symm

/-- Rows that all give a time restore the same flags at any time. -/
theorem restored?_of_timed {db : Database} {now : Int64} {row : Json}
    (htimed : ∀ f, db.Usable now row f → ((row.member? "doneAtMs").bind Json.int64?).isSome)
    (now' : Int64) : db.restored? now' row = db.restored? now row := by
  have hiff : ∀ f, db.restored? now' row = some f ↔ db.restored? now row = some f := by
    intro f
    rw [restored?_eq_some_iff, restored?_eq_some_iff]
    -- A row that is usable at one time is usable at every time, with its own time or the call's.
    constructor
    · intro h
      have hsome := htimed
        ⟨f.owner, f.markerId, ((row.member? "doneAtMs").bind Json.int64?).getD now⟩
        ⟨h.scope, h.owner, h.marker, h.stored, h.done, rfl⟩
      obtain ⟨time, htime⟩ := Option.isSome_iff_exists.mp hsome
      exact ⟨h.scope, h.owner, h.marker, h.stored, h.done, by rw [h.time, htime]; rfl⟩
    · intro h
      obtain ⟨time, htime⟩ := Option.isSome_iff_exists.mp (htimed f h)
      exact ⟨h.scope, h.owner, h.marker, h.stored, h.done, by rw [h.time, htime]; rfl⟩
  exact Option.ext hiff

/-- Restoring progress is a merge. The markers stay, no flag is cleared, and of the usable rows for
one owner and marker the last one gives the time; the report counts the flags that were not set
before, and all usable rows. Rows for different flags can be given in any order, and rows that give
their times change nothing when they are restored again, whenever that is. -/
theorem Reachable.restore_merges {db : Database} (hdb : Reachable db) (now : Int64)
    (rows : List Json) :
    let flags := rows.filterMap (db.restored? now)
    let after := db.importProgress now ⟨rows⟩
    (∀ row f, db.restored? now row = some f ↔ db.Usable now row f) ∧
      after.1.markers = db.markers ∧
      Merges DoneFlag.key flags db.flags after.1.flags after.2 ∧
      (∀ rows', rows.Perm rows' → (flags.map DoneFlag.key).Nodup →
        let after' := db.importProgress now ⟨rows'⟩
        after'.2 = after.2 ∧ after'.1.markers = after.1.markers ∧ after'.1.log = after.1.log ∧
          after'.1.flags.Perm after.1.flags) ∧
      ((∀ row ∈ rows, ∀ f, db.Usable now row f →
          ((row.member? "doneAtMs").bind Json.int64?).isSome) →
        ∀ now', (after.1.importProgress now' ⟨rows⟩).1.flags = after.1.flags) := by
  intro flags after
  have h := hdb.canonical
  obtain ⟨hafter, -⟩ := db.importProgress_eq now rows
  refine ⟨db.restored?_eq_some_iff now, by rw [hafter], merges_importProgress h now rows,
    fun rows' hperm hdistinct => importProgress_perm h now hperm hdistinct, ?_⟩
  intro htimed now'
  -- The markers are those of before, so that the same rows are usable again.
  have hmarker : ∀ id, after.1.hasMarker id = db.hasMarker id := fun id => by rw [hafter]; rfl
  have hrestored : rows.filterMap (after.1.restored? now') = rows.filterMap (db.restored? now) := by
    refine List.filterMap_congr fun row hrow => ?_
    rw [← restored?_of_timed (htimed row hrow) now']
    simp only [restored?, hmarker]
  obtain ⟨hagain, -⟩ := after.1.importProgress_eq now' rows
  rw [hagain, hrestored, hafter]
  exact putAll_putAll _ _ h.keys

/-- The account's flag on a marker, restored by two rows that spell its key in two ways: the second
gives the time, and both rows again change nothing. -/
theorem restore_merges_two_spellings :
    ∃ db : Database, Reachable db ∧ db.flags.map (·.doneAtMs) = [3] ∧ ∃ rows : List Json,
      (db.importProgress 8 ⟨rows⟩).2 = ⟨0, 2⟩ ∧
      (db.importProgress 8 ⟨rows⟩).1.flags.map (·.doneAtMs) = [9] ∧
      ((db.importProgress 8 ⟨rows⟩).1.importProgress 20 ⟨rows⟩).1.flags =
        (db.importProgress 8 ⟨rows⟩).1.flags := by
  let chest : Json :=
    .obj [("id", .str "a"), ("kind", .str "CUBE"), ("map", .str "Poeta"), ("name", .str "Chest")]
  let row (id : String) (time : Int) : Json :=
    .obj [("characterId", .str "hero"), ("doneAtMs", .int time), ("markerId", .str id),
      ("scope", .str " ACCOUNT")]
  let db := ((empty.importMarkers ⟨[chest], none⟩).1.importProgress 5 ⟨[row "a" 3]⟩).1
  have hdb : Reachable db := .importProgress 5 _ (.importMarkers _ .empty)
  let rows := [row " a" 7, row "a " 9, row "b" 4]
  have htimed : ∀ row ∈ rows, ((row.member? "doneAtMs").bind Json.int64?).isSome = true := by
    decide +kernel
  obtain ⟨-, -, -, -, hagain⟩ := hdb.restore_merges 8 rows
  exact ⟨db, hdb, by decide +kernel, rows, by decide +kernel, by decide +kernel,
    hagain (fun row hrow _ _ => htimed row hrow) 20⟩

end Database

end MarkerAtlas
