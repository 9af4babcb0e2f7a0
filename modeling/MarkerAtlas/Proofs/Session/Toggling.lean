import MarkerAtlas.Proofs.Database.Turning
import MarkerAtlas.Proofs.Session.Atomic

/-!
# A toggle turns one flag around and nothing else

A session asks for the flag that it does not show. If it shows what the database lists, this is the
flag that the database does not have, so that the command never comes to nothing: one flag is turned
around, the log says so, and what the session shows afterwards differs from what it showed before in
this one marker.
-/

namespace MarkerAtlas.Session

variable {db db' : Database} {s s' : Session Float} {m : Marker Float} {owner : Owner}

/-- The flag on the marker is turned around, in the database and in what the session shows. -/
structure Toggled (db : Database) (s : Session Float) (owner : Owner) (m : Marker Float)
    (db' : Database) (s' : Session Float) : Prop where
  /-- The owner's flag is the only one that changes, and the log says so. -/
  turned : db.Turned owner (s.command m.id (!m.done)) db'
  /-- The rows of all other flags stay as they are, with their times. -/
  otherRows : db'.flags.filter (fun flag => !flag.isFor owner m.id) =
    db.flags.filter fun flag => !flag.isFor owner m.id
  revision : db'.revision = db.revision + 1
  /-- The markers are listed in the order of before. The one with the flag shows it, or it is gone
  where only what is left to do is listed. -/
  shown : s' = s.relisted (s.filter.afterTurn m.id (!m.done) s.markers)
  /-- Where only what is left to do is listed, a flag can only be set. -/
  undone : s.filter.onlyRemaining = true → m.done = false
  /-- What the session shows is again what the database lists. -/
  listed : db'.listMarkers s'.filter = .ok s'.markers

/-- One toggle of a listed marker. -/
theorem toggleDone_of_listed (hdb : db.Canonical) (hsome : s.metadata.isSome = true)
    (hlisted : db.listMarkers s.filter = .ok s.markers)
    (howner : Owner.of? s.filter.scope s.filter.characterId = some owner) (hm : m ∈ s.markers)
    (now : Int64) :
    ∃ db' s', db.setDone now (s.command m.id (!m.done)) = .ok db' ∧
      (s.toggleDone m.id).run (Archive.store now) (.opened db) =
        (.opened db', s', .ok (!m.done)) ∧
      s.Toggled db owner m db' s' := by
  have hmarker : s.marker m.id = .ok m := by
    rw [marker, Marker.find?_eq_some (hdb.faithful hlisted).nodup hm]
  have hlist : s.markers = db.listFor owner s.filter := by
    rw [Database.listMarkers_of_owner howner] at hlisted
    exact (Except.ok.inj hlisted).symm
  have hshown : m ∈ db.listFor owner s.filter := hlist ▸ hm
  have hleft := Database.done_eq_false_of_onlyRemaining hshown
  -- The session and the database agree on the flag, so that it is the other way than wanted.
  have hwanted : db.isDone owner m.id ≠ !m.done := by
    rw [← Database.done_eq_isDone hshown]
    exact (Bool.not_ne_self m.done).symm
  obtain ⟨db', hset, hturned⟩ := Database.exists_turned (c := s.command m.id (!m.done)) howner
    (Database.hasMarker_of_listed hlisted hm) hwanted now
  -- Only this one flag has changed, so that the listing changes at this one marker.
  have hrelisted : db'.listMarkers s.filter =
      .ok (s.filter.afterTurn m.id (!m.done) s.markers) := by
    rw [Database.listMarkers_of_owner howner, hlist]
    exact congrArg Except.ok (hturned.listFor_eq fun honly => by rw [command, hleft honly]; rfl)
  refine ⟨db', _, hset, ?_, hturned, Database.filter_flags_setDone howner hset,
    hturned.revision, rfl, hleft, hrelisted⟩
  rw [toggleDone_of_ok hmarker, Dialogue.run_map, setDone_of_ok hmarker, Dialogue.run]
  rw [show (Archive.store now).setDone = Archive.setDone now from rfl, Archive.setDone_opened, hset]
  exact congrArg (fun out => (out.1, out.2.1, out.2.2.map fun _ => !m.done))
    (refresh_run_of_listed hsome hrelisted now)

/-- Two toggles of a marker that stays listed leave the markers and the flags as they were. -/
theorem Toggled.again {db'' : Database} {s'' : Session Float}
    (hnodup : (s.markers.map (·.id)).Nodup)
    (hm : m ∈ s.markers) (honly : s.filter.onlyRemaining = false)
    (h : s.Toggled db owner m db' s')
    (h' : s'.Toggled db' owner { m with done := !m.done } db'' s'') :
    s''.markers = s.markers ∧ ∀ owner id, db''.isDone owner id = db.isDone owner id := by
  constructor
  · rw [h'.shown, h.shown]
    show s.filter.afterTurn m.id (!!m.done) (s.filter.afterTurn m.id (!m.done) s.markers) =
      s.markers
    rw [Bool.not_not]
    exact MarkerFilter.afterTurn_afterTurn _ honly hnodup hm
  · intro owner' id
    have hbefore : db.isDone owner m.id = m.done := Bool.ne_not.mp h.turned.wanted
    rw [h'.turned.isDone, h.turned.isDone]
    -- The second command undoes the first one, and neither touches another flag.
    by_cases hkey : owner' = owner ∧ id = m.id
    · rw [hkey.1, hkey.2, hbefore]
      exact (if_pos ⟨rfl, rfl⟩).trans (Bool.not_not m.done)
    · exact (if_neg hkey).trans (if_neg hkey)

/-- **A toggle turns one flag around and nothing else.** A session that has a map and shows what its
database lists turns the flag on any marker it shows: this succeeds and tells the flag as it is
then, and the database and the session are as `Toggled` says. Unless only what is left to do is
listed, turning the flag around again leaves the session with the markers it had before, and the
database with the flags it had. -/
theorem toggle_turns_one_flag (hdb : Database.Reachable db) (hsome : s.metadata.isSome = true)
    (hlisted : db.listMarkers s.filter = .ok s.markers) (hm : m ∈ s.markers) (now : Int64) :
    ∃ owner db' s', Owner.of? s.filter.scope s.filter.characterId = some owner ∧
      (s.toggleDone m.id).run (Archive.store now) (.opened db) =
        (.opened db', s', .ok (!m.done)) ∧
      s.Toggled db owner m db' s' ∧
      (s.filter.onlyRemaining = false → ∀ later, ∃ db'' s'',
        (s'.toggleDone m.id).run (Archive.store later) (.opened db') =
          (.opened db'', s'', .ok m.done) ∧
        s''.markers = s.markers ∧ ∀ owner id, db''.isDone owner id = db.isDone owner id) := by
  obtain ⟨owner, howner⟩ : ∃ owner, Owner.of? s.filter.scope s.filter.characterId = some owner := by
    cases howner : Owner.of? s.filter.scope s.filter.characterId with
    | none => rw [Database.listMarkers, howner] at hlisted; cases hlisted
    | some owner => exact ⟨owner, rfl⟩
  have hnodup := (hdb.canonical.faithful hlisted).nodup
  obtain ⟨db', s', hset, hrun, htoggled⟩ :=
    toggleDone_of_listed hdb.canonical hsome hlisted howner hm now
  refine ⟨owner, db', s', howner, hrun, htoggled, fun honly later => ?_⟩
  obtain rfl := htoggled.shown
  -- Unless done markers are left out, the marker is still shown, with its flag turned around.
  have hturned : { m with done := !m.done } ∈ s.filter.afterTurn m.id (!m.done) s.markers := by
    rw [MarkerFilter.afterTurn, honly]
    exact List.mem_map.mpr ⟨m, hm, if_pos rfl⟩
  obtain ⟨db'', s'', -, hrun', htoggled'⟩ :=
    toggleDone_of_listed (s := s.relisted _) (hdb.setDone now _ hset).canonical hsome
      htoggled.listed howner hturned later
  rw [Bool.not_not] at hrun'
  exact ⟨db'', s'', hrun', htoggled.again hnodup hm honly htoggled'⟩

/-- A character whose id is written with blanks around it sets the flag that the account has set,
and clears it again. -/
theorem toggle_for_character :
    let hero : Owner := ⟨.character, "Hero"⟩
    ∃ (db db' db'' : Database) (s s' s'' : Session Float),
      db.isDone ⟨.account, ""⟩ "a" = true ∧ s.filter.characterId = some " Hero " ∧
      (s.toggleDone "a").run (Archive.store 5) (.opened db) = (.opened db', s', .ok true) ∧
      db'.isDone hero "a" = true ∧
      (s'.toggleDone "a").run (Archive.store 6) (.opened db') = (.opened db'', s'', .ok false) ∧
      db''.isDone hero "a" = false ∧ s''.markers = s.markers := by
  intro hero
  let row : Json :=
    .obj [("id", .str "a"), ("kind", .str "CUBE"), ("map", .str "Poeta"), ("name", .str "Chest")]
  let flag : Json := .obj [("scope", .str "ACCOUNT"), ("markerId", .str "a")]
  let db := ((Database.empty.importMarkers ⟨[row], none⟩).1.importProgress 4 ⟨[flag]⟩).1
  have hdb : Database.Reachable db := .importProgress 4 _ (.importMarkers _ .empty)
  have haccount : db.isDone ⟨.account, ""⟩ "a" = true := by decide +kernel
  have hunset : db.isDone hero "a" = false := by decide +kernel
  let f : MarkerFilter := ⟨.character, some " Hero ", some "Poeta", none, none, none, false⟩
  have howner : Owner.of? f.scope f.characterId = some hero := by decide +kernel
  let s : Session Float :=
    { new Settings.standard with
      map := some "Poeta"
      metadata := some (.ofTiles "Poeta" 0 1024 1024 1 1)
      filter := f
      markers := db.listFor hero f }
  have hlisted : db.listMarkers s.filter = .ok s.markers := Database.listMarkers_of_owner howner
  have hids : (db.listFor hero f).map (·.id) = ["a"] := by decide +kernel
  obtain ⟨m, hm, hid⟩ := List.mem_map.mp (hids ▸ List.mem_cons_self)
  have hdone : m.done = false := by rw [Database.done_eq_isDone hm, hid, hunset]
  obtain ⟨owner, db', s', howner', hrun, htoggled, hagain⟩ :=
    toggle_turns_one_flag hdb rfl hlisted hm 5
  obtain ⟨db'', s'', hrun', hmarkers, hflags⟩ := hagain rfl 6
  obtain rfl : hero = owner := Option.some.inj (howner.symm.trans howner')
  have hset : db'.isDone hero m.id = !m.done :=
    (htoggled.turned.isDone hero m.id).trans (if_pos ⟨rfl, rfl⟩)
  rw [hid, hdone] at hrun hrun' hset
  exact ⟨db, db', db'', s, s', s'', haccount, rfl, hrun, hset, hrun', (hflags _ _).trans hunset,
    hmarkers⟩

end MarkerAtlas.Session
