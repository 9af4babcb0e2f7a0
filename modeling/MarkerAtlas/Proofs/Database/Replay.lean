import Mathlib.Data.Finset.Dedup
import Mathlib.Data.List.Chain
import MarkerAtlas.Database.Log
import MarkerAtlas.Proofs.Database.Canonical
import MarkerAtlas.Proofs.Database.Revision
import MarkerAtlas.Proofs.Database.Writes

/-!
# The log replays to the flags

Whoever knows which flags were set at some revision, and reads the entries that came after it, knows
which flags are set now. An entry keeps the command as it was sent, so that the owner of a flag has
to be told from it as the database told it. Only backups that are restored set flags without saying
which.
-/

namespace MarkerAtlas

/-! ## Reading an entry -/

namespace LogEntry

/-- Whose flag on which marker the payload of an entry names. -/
def key? (e : LogEntry) : Option (Owner × String) := do
  let scope ← (e.payload.memberText? "scope").bind Scope.ofName?
  let markerId ← e.payload.memberText? "markerId"
  let owner ← Owner.of? scope (e.payload.memberText? "characterId")
  some (owner, markerId)

/-- The keys of the flags that are set after an entry, told from its kind and its payload. -/
def replay (keys : Finset (Owner × String)) (e : LogEntry) : Finset (Owner × String) :=
  match e.key? with
  | none => keys
  | some key =>
    if e.kind = "marker.done" then insert key keys
    else if e.kind = "marker.undone" then keys.erase key
    else keys

/-- An entry that tells of a flag names it, and the flag was the other way before. -/
structure Fits (keys : Finset (Owner × String)) (e : LogEntry) : Prop where
  done : e.kind = "marker.done" → ∃ key, e.key? = some key ∧ key ∉ keys
  undone : e.kind = "marker.undone" → ∃ key, e.key? = some key ∧ key ∈ keys

/-- The payload of a command names the key that the command has. -/
theorem key?_flagChanged {c : SetDone} {owner : Owner}
    (h : Owner.of? c.scope c.characterId = some owner) :
    (flagChanged c).key? = some (owner, c.markerId) := by
  have hscope : (flagChanged c).payload.memberText? "scope" = some c.scope.name := rfl
  have hmarker : (flagChanged c).payload.memberText? "markerId" = some c.markerId := rfl
  have hcharacter : (flagChanged c).payload.memberText? "characterId" = c.characterId :=
    Json.text?_ofOption c.characterId
  simp only [key?, hscope, hmarker, hcharacter, Scope.ofName?_name, h, Option.bind_eq_bind,
    Option.bind_some]

/-- Only entries about a flag name a key. -/
theorem kind_of_key? {e : LogEntry} {key : Owner × String} (h : e.key? = some key) :
    e.kind = "marker.done" ∨ e.kind = "marker.undone" := by
  cases e with
  | flagChanged c => cases hdone : c.done <;> simp [kind, hdone]
  | markersImported r => cases h
  | progressImported r => cases h

theorem replay_of_done {e : LogEntry} {key : Owner × String} (keys : Finset (Owner × String))
    (hkey : e.key? = some key) (hkind : e.kind = "marker.done") :
    e.replay keys = insert key keys := by
  simp only [replay, hkey, hkind, if_true]

theorem replay_of_undone {e : LogEntry} {key : Owner × String} (keys : Finset (Owner × String))
    (hkey : e.key? = some key) (hkind : e.kind = "marker.undone") :
    e.replay keys = keys.erase key := by
  simp [replay, hkey, hkind]

/-- An entry leaves every flag alone that it does not name. -/
theorem mem_replay_of_key?_ne {e : LogEntry} {key : Owner × String}
    (keys : Finset (Owner × String)) (h : e.key? ≠ some key) :
    key ∈ e.replay keys ↔ key ∈ keys := by
  cases hkey : e.key? with
  | none => simp only [replay, hkey]
  | some other =>
    have hne : key ≠ other := by
      intro heq
      rw [hkey, heq] at h
      exact h rfl
    -- An entry that names another flag puts that one in or takes it out.
    rcases kind_of_key? hkey with hkind | hkind
    · rw [replay_of_done keys hkey hkind, Finset.mem_insert]
      simp [hne]
    · rw [replay_of_undone keys hkey hkind, Finset.mem_erase]
      simp [hne]

/-! ## Reading entries one after another -/

/-- The entries lead from the keys that are set before them to those that are set after them, and
each fits the keys that it meets. -/
inductive Replays : Finset (Owner × String) → List LogEntry → Finset (Owner × String) → Prop
  | nil (keys : Finset (Owner × String)) : Replays keys [] keys
  | cons {keys keys' : Finset (Owner × String)} {e : LogEntry} {es : List LogEntry}
    (hfits : e.Fits keys) (hrest : Replays (e.replay keys) es keys') : Replays keys (e :: es) keys'

namespace Replays

variable {keys keys' keys'' : Finset (Owner × String)} {es es' : List LogEntry}

theorem append (h : Replays keys es keys') (h' : Replays keys' es' keys'') :
    Replays keys (es ++ es') keys'' := by
  induction h with
  | nil keys => exact h'
  | cons hfits hrest ih => exact .cons hfits (ih h')

/-- An entry about an import of markers tells of no flag. -/
theorem markersImported (keys : Finset (Owner × String)) (r : ImportReport) :
    Replays keys [.markersImported r] keys := by
  have hdone : (LogEntry.markersImported r).kind ≠ "marker.done" := by simp [kind]
  have hundone : (LogEntry.markersImported r).kind ≠ "marker.undone" := by simp [kind]
  exact .cons ⟨fun h => absurd h hdone, fun h => absurd h hundone⟩ (.nil keys)

theorem foldl_eq (h : Replays keys es keys') : es.foldl replay keys = keys' := by
  induction h with
  | nil keys => rfl
  | cons hfits hrest ih => exact ih

theorem fits (h : Replays keys es keys') {front back : List LogEntry} {e : LogEntry}
    (hsplit : es = front ++ e :: back) : e.Fits (front.foldl replay keys) := by
  -- By induction on the entries: the one in question is the first or stands behind it.
  induction h generalizing front with
  | nil keys => simp at hsplit
  | cons hfits hrest ih =>
    cases front with
    | nil =>
      rw [List.nil_append] at hsplit
      obtain ⟨rfl, -⟩ := List.cons.inj hsplit
      exact hfits
    | cons e' front =>
      rw [List.cons_append] at hsplit
      obtain ⟨rfl, hback⟩ := List.cons.inj hsplit
      exact ih hback

/-- The kinds of the entries that name a key alternate, and the first one turns the flag around as
it was before. -/
theorem alternates (h : Replays keys es keys') (key : Owner × String) :
    ((es.filter fun e => e.key? = some key).map kind).IsChain (· ≠ ·) ∧
    ∀ first, ((es.filter fun e => e.key? = some key).map kind).head? = some first →
      first = if key ∈ keys then "marker.undone" else "marker.done" := by
  induction h with
  | nil keys =>
    refine ⟨List.isChain_nil, ?_⟩
    intro first hfirst
    cases hfirst
  | @cons keys keys' e es hfits hrest ih =>
    obtain ⟨hchain, hhead⟩ := ih
    by_cases hkey : e.key? = some key
    · -- The entry turns the flag around, so that the next one that names it, if there is one, has
      -- to turn it back.
      rw [List.filter_cons_of_pos (by simpa using hkey), List.map_cons]
      have hnext : ∀ next, ((es.filter fun e => e.key? = some key).map kind).head? = some next →
          e.kind ≠ next := by
        intro next hnext
        have hkind := hhead next hnext
        rcases kind_of_key? hkey with hdone | hundone
        · rw [replay_of_done keys hkey hdone] at hkind
          rw [hdone, hkind, if_pos (Finset.mem_insert_self key keys)]
          decide
        · rw [replay_of_undone keys hkey hundone] at hkind
          rw [hundone, hkind, if_neg (Finset.notMem_erase key keys)]
          decide
      refine ⟨List.isChain_cons.mpr ⟨hnext, hchain⟩, ?_⟩
      intro first hfirst
      obtain rfl : e.kind = first := Option.some.inj hfirst
      rcases kind_of_key? hkey with hdone | hundone
      · obtain ⟨named, hnamed, hunset⟩ := hfits.done hdone
        obtain rfl : named = key := Option.some.inj (hnamed.symm.trans hkey)
        rw [hdone, if_neg hunset]
      · obtain ⟨named, hnamed, hset⟩ := hfits.undone hundone
        obtain rfl : named = key := Option.some.inj (hnamed.symm.trans hkey)
        rw [hundone, if_pos hset]
    · -- The entry is about another flag or about none.
      rw [List.filter_cons_of_neg (by simpa using hkey)]
      refine ⟨hchain, ?_⟩
      intro first hfirst
      have hkind := hhead first hfirst
      simp only [mem_replay_of_key?_ne keys hkey] at hkind
      exact hkind

end Replays

end LogEntry

/-! ## Runs -/

namespace Database

/-- The keys of the flags that are set. -/
def flagKeys (db : Database) : Finset (Owner × String) := (db.flags.map DoneFlag.key).toFinset

theorem mem_flagKeys {db : Database} {owner : Owner} {id : String} :
    (owner, id) ∈ db.flagKeys ↔ db.isDone owner id = true := by
  rw [flagKeys, List.mem_toFinset, isDone_iff]

/-- The entries of the log that came after a revision, in the order of their numbers. -/
def entriesAfter (db : Database) (revision : Nat) : List LogEntry :=
  (db.numberedLog.filter (revision < ·.1)).map (·.2)

/-- The call restores a flag from a backup. -/
def restoresFlag (db : Database) : Write → Bool
  | .importMarkers _ => false
  | .importProgress now i => decide (0 < (db.importProgress now i).2.total)
  | .setDone _ _ => false

/-- None of the calls, one after another, restores a flag from a backup. -/
def RestoresNoFlag (db : Database) : List Write → Prop
  | [] => True
  | w :: ws => db.restoresFlag w = false ∧ RestoresNoFlag (db.write w) ws

instance decidableRestoresNoFlag : ∀ db ws, Decidable (RestoresNoFlag db ws)
  | _, [] => isTrue trivial
  | db, w :: ws =>
    have := decidableRestoresNoFlag (db.write w) ws
    inferInstanceAs (Decidable (db.restoresFlag w = false ∧ RestoresNoFlag (db.write w) ws))

/-- The entries after a revision are what was added to the log since. -/
theorem entriesAfter_of_append {db db' : Database} {es : List LogEntry}
    (h : db'.log = db.log ++ es) : db'.entriesAfter db.revision = es := by
  have hnumbered : ∀ d : Database, d.numberedLog = d.log.zipIdx.map fun p => (p.2 + 1, p.1) :=
    fun _ => rfl
  rw [entriesAfter, hnumbered, h, List.zipIdx_append, List.map_append, List.filter_append]
  -- The entries are numbered from one, so that the last one that was there has the revision as its
  -- number.
  have hbefore : (db.log.zipIdx.map fun p => (p.2 + 1, p.1)).filter
      (fun entry => decide (db.revision < entry.1)) = [] := by
    rw [List.filter_eq_nil_iff]
    intro entry hentry
    obtain ⟨⟨e, i⟩, hmem, rfl⟩ := List.mem_map.mp hentry
    have hlt : i < db.log.length := List.snd_lt_of_mem_zipIdx hmem
    have hnot : ¬ db.revision < i + 1 := Nat.not_lt.mpr hlt
    exact fun hlater => hnot (of_decide_eq_true hlater)
  have hafter : ((es.zipIdx (0 + db.log.length)).map fun p => (p.2 + 1, p.1)).filter
      (fun entry => decide (db.revision < entry.1)) =
      (es.zipIdx (0 + db.log.length)).map fun p => (p.2 + 1, p.1) := by
    rw [List.filter_eq_self]
    intro entry hentry
    obtain ⟨⟨e, i⟩, hmem, rfl⟩ := List.mem_map.mp hentry
    have hle : 0 + db.log.length ≤ i := List.le_snd_of_mem_zipIdx hmem
    rw [Nat.zero_add] at hle
    exact decide_eq_true (Nat.lt_succ_of_le hle)
  rw [hbefore, hafter, List.nil_append, List.map_map]
  exact List.zipIdx_map_fst _ es

/-! ### Single calls -/

/-- An import of markers leaves the flags. -/
theorem flags_importMarkers (db : Database) (i : MarkerImport) :
    (db.importMarkers i).1.flags = db.flags := by
  have hfold : (i.accepted.foldl putMarker (db, ⟨0, 0⟩)).1.flags = db.flags := by
    apply List.foldlRecOn
      (motive := fun state : Database × ImportReport => state.1.flags = db.flags)
    · rfl
    · intro state hstate m _
      exact hstate
  obtain ⟨log, hlog⟩ := db.importMarkers_eq_foldl i
  rw [hlog]
  exact hfold

/-- An import of markers is logged as such if it is logged. -/
theorem log_importMarkers (db : Database) (i : MarkerImport) :
    (db.importMarkers i).1.log = db.log ∨
    (db.importMarkers i).1.log = db.log ++ [.markersImported (db.importMarkers i).2] := by
  have hcounted := counted_foldl counted_putMarker i.accepted (db, ⟨0, 0⟩)
  have hlog : (i.accepted.foldl putMarker (db, ⟨0, 0⟩)).1.log = db.log := by
    rcases hcounted with hsame | ⟨-, hlog⟩
    · rw [hsame]
    · exact hlog
  simp only [importMarkers]
  split
  · exact .inr (congrArg (· ++ [_]) hlog)
  · exact .inl hlog

/-- An import of progress that takes no row changes nothing. -/
theorem importProgress_of_restoresFlag {db : Database} {now : Int64} {i : ProgressImport}
    (h : db.restoresFlag (.importProgress now i) = false) :
    (db.importProgress now i).1 = db := by
  have hnone : ¬ 0 < (db.importProgress now i).2.total := by simpa [restoresFlag] using h
  rcases counted_foldl counted_putFlag (i.rows.filterMap (DoneFlag.ofRow? now)) (db, ⟨0, 0⟩) with
    hsame | ⟨hlt, -⟩
  · simp [importProgress, hsame, ImportReport.total]
  · exact absurd (Nat.pos_of_ne_zero (Nat.ne_zero_of_lt hlt)) hnone

/-- A flag that a command has turned around is what its entry in the log says. -/
theorem Turned.replays {db db' : Database} {owner : Owner} {c : SetDone}
    (h : db.Turned owner c db') (howner : Owner.of? c.scope c.characterId = some owner) :
    LogEntry.Replays db.flagKeys [.flagChanged c] db'.flagKeys := by
  have hkey : (LogEntry.flagChanged c).key? = some (owner, c.markerId) :=
    LogEntry.key?_flagChanged howner
  have hafter : ∀ owner' id, (owner', id) ∈ db'.flagKeys ↔
      if owner' = owner ∧ id = c.markerId then c.done = true else (owner', id) ∈ db.flagKeys := by
    intro owner' id
    rw [mem_flagKeys, mem_flagKeys, h.isDone]
    split <;> rfl
  -- The command changed the flag, so that it was not set before it was set, or set before it was
  -- cleared.
  cases hdone : c.done with
  | true =>
    have hkind : (LogEntry.flagChanged c).kind = "marker.done" := by simp [LogEntry.kind, hdone]
    have hunset : (owner, c.markerId) ∉ db.flagKeys := by
      rw [mem_flagKeys, ← hdone]
      exact h.wanted
    have hkeys : (LogEntry.flagChanged c).replay db.flagKeys = db'.flagKeys := by
      rw [LogEntry.replay_of_done _ hkey hkind]
      ext ⟨owner', id⟩
      rw [Finset.mem_insert, hafter, Prod.mk.injEq, hdone]
      by_cases hnamed : owner' = owner ∧ id = c.markerId <;> simp [hnamed]
    rw [← hkeys]
    refine .cons ⟨fun _ => ⟨_, hkey, hunset⟩, fun hundone => ?_⟩ (.nil _)
    exact absurd (hkind.symm.trans hundone) (by decide)
  | false =>
    have hkind : (LogEntry.flagChanged c).kind = "marker.undone" := by simp [LogEntry.kind, hdone]
    have hset : (owner, c.markerId) ∈ db.flagKeys := by
      rw [mem_flagKeys, ← Bool.not_eq_false, ← hdone]
      exact h.wanted
    have hkeys : (LogEntry.flagChanged c).replay db.flagKeys = db'.flagKeys := by
      rw [LogEntry.replay_of_undone _ hkey hkind]
      ext ⟨owner', id⟩
      rw [Finset.mem_erase, hafter, Ne, Prod.mk.injEq, hdone]
      by_cases hnamed : owner' = owner ∧ id = c.markerId <;> simp [hnamed]
    rw [← hkeys]
    refine .cons ⟨fun hdone' => ?_, fun _ => ⟨_, hkey, hset⟩⟩ (.nil _)
    exact absurd (hkind.symm.trans hdone') (by decide)

/-- What a call that restores no flag adds to the log tells what it does to the flags. -/
theorem write_replays {db : Database} {w : Write} (h : db.restoresFlag w = false) :
    ∃ es, (db.write w).log = db.log ++ es ∧
      LogEntry.Replays db.flagKeys es (db.write w).flagKeys := by
  -- An import of markers makes an entry that names no flag; a backup that restores nothing leaves
  -- everything; a command makes an entry just if it changes the flag.
  cases w with
  | importMarkers i =>
    have hkeys : (db.write (.importMarkers i)).flagKeys = db.flagKeys :=
      congrArg (fun flags => (flags.map DoneFlag.key).toFinset) (db.flags_importMarkers i)
    rw [hkeys]
    rcases db.log_importMarkers i with hlog | hlog
    · refine ⟨[], ?_, .nil _⟩
      rw [List.append_nil]
      exact hlog
    · exact ⟨_, hlog, .markersImported _ _⟩
  | importProgress now i =>
    have hsame : db.write (.importProgress now i) = db := importProgress_of_restoresFlag h
    rw [hsame]
    exact ⟨[], (List.append_nil _).symm, .nil _⟩
  | setDone now c =>
    cases hset : db.setDone now c with
    | error why =>
      rw [write_setDone_of_error hset]
      exact ⟨[], (List.append_nil _).symm, .nil _⟩
    | ok db' =>
      rw [write_setDone_of_ok hset]
      obtain ⟨owner, howner, -, ⟨-, rfl⟩ | hturned⟩ := setDone_ok hset
      · exact ⟨[], (List.append_nil _).symm, .nil _⟩
      · exact ⟨_, hturned.log, hturned.replays howner⟩

/-! ### Calls one after another -/

theorem writeAll_replays {db : Database} {ws : List Write} (h : db.RestoresNoFlag ws) :
    ∃ es, (db.writeAll ws).log = db.log ++ es ∧
      LogEntry.Replays db.flagKeys es (db.writeAll ws).flagKeys := by
  induction ws generalizing db with
  | nil => exact ⟨[], (List.append_nil _).symm, .nil _⟩
  | cons w ws ih =>
    obtain ⟨es, hlog, hreplays⟩ := write_replays h.1
    obtain ⟨es', hlog', hreplays'⟩ := ih h.2
    refine ⟨es ++ es', ?_, hreplays.append hreplays'⟩
    show ((db.write w).writeAll ws).log = db.log ++ (es ++ es')
    rw [hlog', hlog, List.append_assoc]

/-- Whoever knows which flags were set, and reads the entries that calls have added to the log
since, knows which flags are set after them, unless one of the calls restored a flag from a backup.
Each entry that says that a flag was set or cleared found it the other way, so that the entries
about one flag alternate. -/
theorem log_replays_to_flags (db : Database) (ws : List Write) (h : db.RestoresNoFlag ws) :
    let entries := (db.writeAll ws).entriesAfter db.revision
    entries.foldl LogEntry.replay db.flagKeys = (db.writeAll ws).flagKeys ∧
    (∀ front e back, entries = front ++ e :: back →
      e.Fits (front.foldl LogEntry.replay db.flagKeys)) ∧
    ∀ key, ((entries.filter fun e => e.key? = some key).map LogEntry.kind).IsChain (· ≠ ·) := by
  intro entries
  obtain ⟨es, hlog, hreplays⟩ := writeAll_replays h
  -- Since the revision, exactly the entries of the calls were added.
  have hentries : entries = es := entriesAfter_of_append hlog
  rw [hentries]
  refine ⟨hreplays.foldl_eq, ?_, ?_⟩
  · intro front e back hsplit
    exact hreplays.fits hsplit
  · intro key
    exact (hreplays.alternates key).1

/-- A flag of the account that a backup had set is cleared by a command that also names a
character, and a character's flag is set and cleared under three spellings of its id. Between these
come a second import of the marker, a command that changes nothing, one on a marker that is not
stored, and a backup of a flag on that marker. -/
theorem log_replays_after_padded_ids :
    ∃ (db : Database) (ws : List Write), Reachable db ∧ db.flagKeys.Nonempty ∧
      db.RestoresNoFlag ws ∧
      ((db.writeAll ws).entriesAfter db.revision).map LogEntry.kind =
        ["marker.undone", "marker.done", "markers.imported", "marker.undone"] ∧
      ((db.writeAll ws).entriesAfter db.revision).foldl LogEntry.replay db.flagKeys =
        (db.writeAll ws).flagKeys := by
  let chest : Json := .obj [("id", .str "a"), ("kind", .str "CUBE"), ("map", .str "Poeta"),
    ("name", .str "Chest")]
  let known : Json := .obj [("scope", .str "ACCOUNT"), ("markerId", .str "a")]
  let unknown : Json := .obj [("scope", .str "ACCOUNT"), ("markerId", .str "b")]
  let db := ((empty.importMarkers ⟨[chest], none⟩).1.importProgress 5 ⟨[known]⟩).1
  let ws : List Write := [.setDone 6 ⟨.account, some "Hero", "a", false⟩,
    .setDone 7 ⟨.character, some " Hero", "a", true⟩, .importMarkers ⟨[chest], some "file"⟩,
    .setDone 8 ⟨.character, some "Hero ", "a", true⟩, .setDone 9 ⟨.account, none, "b", true⟩,
    .importProgress 10 ⟨[unknown]⟩, .setDone 11 ⟨.character, some "Hero", "a", false⟩]
  have hdb : Reachable db := .importProgress 5 _ (.importMarkers _ .empty)
  have hflag : (⟨.account, ""⟩, "a") ∈ db.flagKeys := mem_flagKeys.mpr (by decide +kernel)
  have hrun : db.RestoresNoFlag ws := by decide +kernel
  have hkinds : ((db.writeAll ws).entriesAfter db.revision).map LogEntry.kind =
      ["marker.undone", "marker.done", "markers.imported", "marker.undone"] := by decide +kernel
  exact ⟨db, ws, hdb, ⟨_, hflag⟩, hrun, hkinds, (log_replays_to_flags db ws hrun).1⟩

end Database

end MarkerAtlas
