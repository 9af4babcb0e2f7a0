import MarkerAtlas.Proofs.Service.Access
import MarkerAtlas.Proofs.Service.Coherence
import MarkerAtlas.Proofs.Session.Atomic

/-!
# What it takes to write to the database

Four paths write to the database. Each wants a local peer, the method POST and a body that is said
to be JSON, which no page in a browser can send to another origin without asking in advance. And
each either succeeds or leaves the database as it was: what comes after the write, listing the
markers anew, cannot fail on a server that is coherent.

## Plan

* `Endpoint.Guards`: what an endpoint asks of a request before it reads a command that writes.
* `Job.ReadsOnly`: the jobs of all other commands, on any server.
* `Job.WritesOnSuccess`: the jobs of the commands that write, on a coherent server.
-/

namespace MarkerAtlas

variable {bounds : ViewportSettings Float} {now : Int64}

/-! ## Requests that are read into writes -/

/-- The commands that may write to the database. -/
def Command.writes : Command → Bool
  | .setDone _ => true
  | .importMarkers _ => true
  | .restoreProgress _ => true
  | .toggleMarker _ => true
  | _ => false

/-- The request says that its body is JSON. -/
def Request.AnnouncesJson (r : Request) : Prop :=
  ∃ s m, r.contentType = some s ∧ MediaType.ofText? s = some m ∧ m.isJson = true

/-- A page cannot announce JSON without asking in advance. -/
theorem Request.not_announcesJson {r : Request} (h : r.NeedsNoAdvance) : ¬ r.AnnouncesJson := by
  rintro ⟨s, m, hs, hm, hjson⟩
  have hnot := MediaType.not_isJson_of_isSimple (h s hs) hm
  rw [hjson] at hnot
  cases hnot

namespace Endpoint

/-- The paths of the endpoints that may write to the database. -/
def writingPaths : List String :=
  ["/api/markers/done", "/api/markers/import", "/api/backup/progress", "/api/map/marker/toggle"]

/-- Only POST requests that announce JSON, to one of four paths, are read into commands that may
write. -/
def Guards (e : Endpoint) : Prop :=
  ∀ r c, e.read r = .ok c → c.writes = true →
    e.method = .post ∧ e.path ∈ writingPaths ∧ r.AnnouncesJson

theorem announcesJson_of_readBody {β : Type} {f : Decoder β} {r : Request} {b : β}
    (h : readBody f r = .ok b) : r.AnnouncesJson := by
  unfold readBody at h
  split at h
  · next hjson =>
    obtain ⟨m, hm, hisJson⟩ := (Option.any_eq_true ..).mp hjson
    obtain ⟨s, hs, hmedia⟩ := Option.bind_eq_some_iff.mp hm
    exact ⟨s, m, hs, hmedia, hisJson⟩
  · cases h

theorem guards_ask {path : String} {command : Command} (h : command.writes = false) :
    (ask path command).Guards := by
  intro r c hread hwrites
  cases hread
  rw [h] at hwrites
  cases hwrites

theorem guards_tell {path : String} {command : Command} (h : command.writes = false) :
    (tell path command).Guards := by
  intro r c hread hwrites
  cases hread
  rw [h] at hwrites
  cases hwrites

theorem filter_ok {r : Request} {c : Command}
    (h : (readFilter r).map .listMarkers = .ok c) : ∃ f, c = .listMarkers f := by
  cases hfilter : readFilter r with
  | error why => simp [hfilter, Except.map] at h
  | ok f =>
    simp only [hfilter, Except.map] at h
    cases h
    exact ⟨f, rfl⟩

theorem guards_filter {path : String} :
    (⟨.get, path, fun r => (readFilter r).map .listMarkers⟩ : Endpoint).Guards := by
  intro r c hread hwrites
  obtain ⟨f, rfl⟩ := filter_ok hread
  cases hwrites

section
variable {β : Type} {path : String} {f : Decoder β} {command : β → Command}

theorem take_ok {r : Request} {c : Command} (h : (take path f command).read r = .ok c) :
    r.AnnouncesJson ∧ ∃ b, c = command b := by
  simp only [take] at h
  cases hbody : readBody f r with
  | error why => simp [hbody, Except.map] at h
  | ok b =>
    simp only [hbody, Except.map] at h
    cases h
    exact ⟨announcesJson_of_readBody hbody, b, rfl⟩

theorem guards_take (hpath : path ∈ writingPaths) : (take path f command).Guards := by
  intro r c hread hwrites
  exact ⟨rfl, hpath, (take_ok hread).1⟩

theorem guards_take_of_not_writes (h : ∀ b, (command b).writes = false) :
    (take path f command).Guards := by
  intro r c hread hwrites
  obtain ⟨-, b, rfl⟩ := take_ok hread
  rw [h b] at hwrites
  cases hwrites

end

theorem guards_all : ∀ e ∈ all, e.Guards := by
  simp only [all, List.forall_mem_cons, List.not_mem_nil, IsEmpty.forall_iff, implies_true,
    and_true]
  exact ⟨guards_ask rfl, guards_ask rfl, guards_filter, guards_take (by decide),
    guards_take (by decide), guards_ask rfl, guards_ask rfl, guards_take (by decide),
    guards_take_of_not_writes fun _ => rfl, guards_take_of_not_writes fun _ => rfl,
    guards_take_of_not_writes fun _ => rfl, guards_tell rfl, guards_tell rfl, guards_tell rfl,
    guards_take_of_not_writes fun _ => rfl, guards_take_of_not_writes fun _ => rfl,
    guards_tell rfl, guards_ask rfl, guards_take_of_not_writes fun _ => rfl,
    guards_take (by decide), guards_take_of_not_writes fun _ => rfl, guards_ask rfl,
    guards_tell rfl, guards_tell rfl, guards_tell rfl, guards_take_of_not_writes fun _ => rfl,
    guards_tell rfl, guards_tell rfl⟩

theorem find_some {method : Method} {path : String} {e : Endpoint}
    (h : find method path = some (some e)) :
    e ∈ all ∧ e.path = path ∧ e.method = servedAs method := by
  unfold find at h
  split at h
  · cases h
  · next here hhere =>
    have hfind : (all.filter (·.path == path)).find? (·.method = servedAs method) = some e :=
      Option.some.inj h
    obtain ⟨hall, hpath⟩ := List.mem_filter.mp (List.mem_of_find?_eq_some hfind)
    exact ⟨hall, by simpa using hpath, by simpa using List.find?_some hfind⟩

/-- A request that names an endpoint and is read into a command that writes. -/
theorem find_writes {r : Request} {e : Endpoint} {c : Command}
    (hfind : find r.method r.path = some (some e)) (hread : e.read r = .ok c)
    (hwrites : c.writes = true) :
    r.method = .post ∧ r.AnnouncesJson ∧ r.path ∈ writingPaths := by
  obtain ⟨hall, hpath, hmethod⟩ := find_some hfind
  obtain ⟨hpost, hwriting, hjson⟩ := guards_all e hall r c hread hwrites
  refine ⟨?_, hjson, hpath ▸ hwriting⟩
  -- Only a request for POST is served as POST.
  rw [hpost] at hmethod
  cases hsent : r.method with
  | post => rfl
  | _ => rw [hsent] at hmethod; cases hmethod

end Endpoint

/-! ## Jobs that do not write -/

namespace Session

/-- A change of the map writes nothing. -/
theorem selectMap_run_fst {α σ : Type} [Scalar α] (s : Session α) (map : String)
    (store : Store σ α) (state : σ) : ((s.selectMap map).run store state).1 = state := by
  simp only [selectMap, Dialogue.run]
  cases store.maps state with
  | error why => rfl
  | ok maps =>
    dsimp only
    cases maps.find? (·.name == map) with
    | none => rfl
    | some m =>
      rw [Dialogue.run_map]
      exact refresh_run_fst state

/-- A change of the filter writes nothing. -/
theorem setFilter_run_fst {α σ : Type} [Scalar α] (s : Session α) (f : MarkerFilter)
    (store : Store σ α) (state : σ) : ((s.setFilter f).run store state).1 = state := by
  simp only [setFilter]
  cases s.map with
  | none => rfl
  | some map => exact refresh_run_fst state

end Session

namespace Job

/-- A job that leaves the database alone, whatever the server holds. -/
def ReadsOnly (now : Int64) (j : Job) : Prop := ∀ s : Server, (j.run now s).1.archive = s.archive

theorem readsOnly_respond (r : Response) : (respond r).ReadsOnly now := fun _ => rfl

theorem readsOnly_requireOwner {scope : Scope} {characterId : Option String} {next : Job}
    (h : next.ReadsOnly now) : (requireOwner scope characterId next).ReadsOnly now := by
  unfold requireOwner
  split
  · exact readsOnly_respond _
  · exact h

theorem readsOnly_reading (f : Archive → Answer Json) : (reading f).ReadsOnly now := by
  intro s
  simp only [reading, call, run]
  cases f s.archive <;> rfl

theorem readsOnly_talk {β : Type} {f : Session Float → Dialogue Float (Session.After Float β)}
    {shown : Session Float → Json}
    (hf : ∀ t a, ((f t).run (Archive.store now) a).1 = a) : (talk f shown).ReadsOnly now := by
  intro s
  simp only [talk, run, Dialogue.run_map]
  exact hf s.session s.archive

theorem InSession.readsOnly {j : Job} (h : j.InSession) : j.ReadsOnly now := by
  obtain ⟨body, rfl, -⟩ := h
  exact fun _ => rfl

end Job

open Job in
theorem Command.readsOnly {c : Command} (h : c.writes = false) : (c.job now).ReadsOnly now := by
  by_cases hsession : c.inSession = true
  · exact (job_inSession hsession).readsOnly
  -- The commands that write are excluded; the others only read from the archive.
  cases c with
  | health => exact readsOnly_respond _
  | listMaps => exact readsOnly_reading _
  | listMarkers f => exact readsOnly_requireOwner (readsOnly_reading _)
  | backupMarkers => exact readsOnly_reading _
  | backupProgress => exact readsOnly_reading _
  | selectMap name => exact readsOnly_talk fun t => t.selectMap_run_fst _ _
  | setFilter f => exact readsOnly_requireOwner (readsOnly_talk fun t => t.setFilter_run_fst f _)
  | setDone _ | importMarkers _ | restoreProgress _ | toggleMarker _ => cases h
  | _ => exact absurd rfl hsession

/-! ## Jobs that write -/

/-- Turning a flag around leaves the database alone or succeeds: after the flag is written, the
markers can be listed. -/
theorem Session.Listable.toggleDone_cases {t : Session Float} (h : t.Listable bounds) (id : String)
    (now : Int64) (db : Database) :
    ((t.toggleDone id).run (Archive.store now) (.opened db)).1 = .opened db ∨
      ∃ done, ((t.toggleDone id).run (Archive.store now) (.opened db)).2.2 = .ok done := by
  cases hmarker : t.marker id with
  | error e =>
    rw [toggleDone_of_error hmarker]
    exact .inl rfl
  | ok m =>
    -- The marker is shown, so there is a map whose markers can be listed again after the write.
    obtain ⟨entry, hentry⟩ := Option.isSome_iff_exists.mp (h.metadata_isSome_of_marker hmarker)
    rw [toggleDone_of_ok hmarker, Dialogue.run_map, setDone_of_ok hmarker]
    simp only [Dialogue.run]
    cases hset : (Archive.store now).setDone (.opened db) (t.command id (!m.done)) with
    | error why => exact .inl rfl
    | ok a =>
      obtain ⟨-, db', -, -, rfl⟩ := Archive.setDone_ok hset
      obtain ⟨ms, -, hrun⟩ := refresh_run h hentry now db'
      refine .inr ⟨!m.done, ?_⟩
      show (t.refresh.run (Archive.store now) (.opened db')).2.2.map (fun _ => !m.done) = _
      rw [hrun]
      rfl

namespace Job

/-- A job that on a coherent server leaves the database alone or succeeds. -/
def WritesOnSuccess (bounds : ViewportSettings Float) (now : Int64) (j : Job) : Prop :=
  ∀ db t, Session.Coherent bounds db t →
    (j.run now ⟨.opened db, t⟩).1.archive = .opened db ∨
      (j.run now ⟨.opened db, t⟩).2.status = 200

theorem ReadsOnly.writesOnSuccess {j : Job} (h : j.ReadsOnly now) :
    j.WritesOnSuccess bounds now := fun _ _ _ => .inl (h _)

theorem writesOnSuccess_requireOwner {scope : Scope} {characterId : Option String} {next : Job}
    (h : next.WritesOnSuccess bounds now) :
    (requireOwner scope characterId next).WritesOnSuccess bounds now := by
  unfold requireOwner
  split
  · exact (readsOnly_respond _).writesOnSuccess
  · exact h

/-- A call that fails changes nothing, and listing the markers anew after one that succeeds does
not fail. -/
theorem writesOnSuccess_call {β : Type} {f : Archive → Archive × Answer β}
    {failed : StoreFailure → Response} {answer : β → Json}
    (hf : CommitsOrFails f) :
    (call f failed fun b => resync (answer b)).WritesOnSuccess bounds now := by
  intro db t ht
  -- It fails before it has written, or the answer to what it has written is the listing that
  -- follows.
  rcases hf db with ⟨why, hwhy⟩ | ⟨db', b, hb⟩
  · refine .inl ?_
    simp only [call, run, hwhy]
  · obtain ⟨t', hrun, -⟩ := resync_run ht.toListable now db' (answer b)
    refine .inr ?_
    simp only [call, run, hb]
    rw [hrun]
    rfl

end Job

open Job in
theorem Command.writesOnSuccess (c : Command) : (c.job now).WritesOnSuccess bounds now := by
  -- What does not write is settled already, which leaves four commands.
  cases hwrites : c.writes with
  | false => exact (Command.readsOnly hwrites).writesOnSuccess
  | true =>
    cases c with
    | setDone c =>
      exact writesOnSuccess_requireOwner (writesOnSuccess_call (commitsOrFails_setDone now c))
    | importMarkers rows => exact writesOnSuccess_call (commitsOrFails_write _)
    | restoreProgress rows => exact writesOnSuccess_call (commitsOrFails_write _)
    | toggleMarker id =>
      cases id with
      | none => exact (readsOnly_respond _).writesOnSuccess
      | some id =>
        -- The session turns the flag: it refuses without a write, or has written and lists.
        intro db t ht
        simp only [Command.job, talk, run, Dialogue.run_map]
        rcases ht.toListable.toggleDone_cases id now db with hsame | ⟨done, hok⟩
        · exact .inl hsame
        · refine .inr ?_
          generalize (t.toggleDone id).run (Archive.store now) (.opened db) = out at *
          obtain ⟨archive, t', result⟩ := out
          obtain rfl : result = .ok done := hok
          rfl
    | _ => cases hwrites

/-! ## Requests -/

/-- A request that changes the database comes from a local peer, is read into a command that writes
and succeeds. -/
theorem Request.job_cases (r : Request) (now : Int64) {db : Database} {t : Session Float}
    (ht : t.Coherent bounds db) :
    ((r.job now).run now ⟨.opened db, t⟩).1.archive = .opened db ∨
      (r.peer.isAllowed = true ∧ r.method = .post ∧ r.AnnouncesJson ∧
        r.path ∈ Endpoint.writingPaths ∧ ((r.job now).run now ⟨.opened db, t⟩).2.status = 200) := by
  unfold Request.job
  -- A peer that is not allowed does not even get to the table of paths.
  by_cases hallowed : r.peer.isAllowed = true
  · rw [hallowed, Bool.not_true, if_neg Bool.false_ne_true]
    split
    · exact .inl rfl
    · exact .inl rfl
    · next e hfind =>
      split
      · exact .inl rfl
      · next c hread =>
        cases hwrites : c.writes with
        | false => exact .inl (Command.readsOnly hwrites _)
        | true =>
          obtain ⟨hpost, hjson, hpath⟩ := Endpoint.find_writes hfind hread hwrites
          rcases Command.writesOnSuccess c db t ht with hsame | hstatus
          · exact .inl hsame
          · exact .inr ⟨rfl, hpost, hjson, hpath, hstatus⟩
  · rw [Bool.not_eq_true] at hallowed
    rw [hallowed, Bool.not_false, if_pos rfl]
    exact .inl rfl

/-- A request from another peer than those that are served does nothing. -/
theorem Server.handle_of_not_allowed {r : Request} (h : r.peer.isAllowed = false) (s : Server) :
    (s.handle now r).1 = s := by
  unfold Server.handle
  split
  · rfl
  · rw [Request.job, h, Bool.not_false, if_pos rfl]
    rfl

namespace Server

/-- The server after some requests, one after another, each with the time at which it is handled. -/
def handleAll (s : Server) (requests : List (Int64 × Request)) : Server :=
  requests.foldl (fun s p => (s.handle p.1 p.2).1) s

theorem Coherent.handleAll {s : Server} (h : s.Coherent bounds)
    (requests : List (Int64 × Request)) : (s.handleAll requests).Coherent bounds := by
  induction requests generalizing s with
  | nil => exact h
  | cons p requests ih => exact ih (h.handle p.1 p.2).1

theorem Coherent.handle_cases {s : Server} (h : s.Coherent bounds) (now : Int64) (r : Request) :
    (s.handle now r).1.archive = s.archive ∨
      (r.peer.isAllowed = true ∧ r.method = .post ∧ r.AnnouncesJson ∧
        r.path ∈ Endpoint.writingPaths ∧ (s.handle now r).2.response.status = 200) := by
  unfold Server.handle
  -- Who asks in advance is told what is allowed, and nothing is done.
  by_cases hadvance : r.method = .options
  · rw [if_pos hadvance]
    exact .inl rfl
  · rw [if_neg hadvance]
    obtain ⟨db, hdb, hcoherent⟩ := h
    have hs : s = ⟨.opened db, s.session⟩ := by rw [← hdb]
    have hcases := r.job_cases now hcoherent
    rw [hs]
    rcases hcases with hsame | ⟨hallowed, hpost, hjson, hpath, hstatus⟩
    · exact .inl hsame
    · refine .inr ⟨hallowed, hpost, hjson, hpath, ?_⟩
      show (r.sent _).status = 200
      rw [Request.sent_status]
      exact hstatus

/-- What holds of every server on a working database, after any requests and for any request that
follows. A request that changes the database comes from a local peer to one of four paths, with
the method POST and a body that is said to be JSON, and succeeds. One that is answered with an error
leaves the database as it was, and so does one that a page in a browser can send without asking in
advance. One from any other peer leaves everything as it was. -/
theorem write_gate (settings : Settings Float) (db : Database) (past : List (Int64 × Request))
    (now : Int64) (r : Request) :
    let s := (Server.new settings (.opened db)).handleAll past
    let out := s.handle now r
    (out.1.archive ≠ s.archive →
      r.peer.IsLocal ∧ r.method = .post ∧
      (∃ text m, r.contentType = some text ∧ MediaType.ofText? text = some m ∧ m.isJson = true) ∧
      r.path ∈ ["/api/markers/done", "/api/markers/import", "/api/backup/progress",
        "/api/map/marker/toggle"] ∧
      out.2.response.status = 200) ∧
    (400 ≤ out.2.response.status → out.1.archive = s.archive) ∧
    (r.NeedsNoAdvance → out.1.archive = s.archive) ∧
    (¬ r.peer.IsLocal → out.1 = s) := by
  intro s out
  have hcoherent : s.Coherent settings.viewport :=
    Coherent.handleAll ⟨db, rfl, Session.coherent_new settings db⟩ past
  have hcases := hcoherent.handle_cases now r
  refine ⟨fun hchanged => ?_, fun herror => ?_, fun hsimple => ?_, fun hother => ?_⟩
  · -- Either nothing has changed, or all that a change asks for holds; each part takes the side it
    -- can use.
    obtain ⟨hallowed, hpost, hjson, hpath, hstatus⟩ := hcases.resolve_left hchanged
    exact ⟨r.peer.isAllowed_iff.mp hallowed, hpost, hjson, hpath, hstatus⟩
  · rcases hcases with hsame | ⟨-, -, -, -, hstatus⟩
    · exact hsame
    · have hstatus : out.2.response.status = 200 := hstatus
      -- A success is no error.
      omega
  · rcases hcases with hsame | ⟨-, -, hjson, -, -⟩
    · exact hsame
    · exact absurd hjson (Request.not_announcesJson hsimple)
  · apply handle_of_not_allowed
    rw [← Bool.not_eq_true, r.peer.isAllowed_iff]
    exact hother

/-- A peer of the private network imports a marker. The same request from another peer does nothing,
nor does it change the database when it announces plain text, or when it goes to a path that takes
other JSON. -/
theorem write_gate_for_import :
    ∃ (s : Server) (r : Request), (s.handle 5 r).1.archive ≠ s.archive ∧
      r.peer = .v4 100 127 0 1 ∧ r.peer.IsLocal ∧ (s.handle 5 r).2.response.status = 200 ∧
      (s.handle 5 { r with peer := .v4 100 128 0 1 }).1 = s ∧
      (s.handle 5 { r with contentType := some " Text/plain ;" }).1.archive = s.archive ∧
      (s.handle 5 { r with path := "/api/markers/done" }).1.archive = s.archive := by
  let chest : Json := .obj [("id", .str "a"), ("kind", .str "CUBE"), ("map", .str "Poeta"),
    ("name", .str "Chest")]
  let r : Request := ⟨.post, "/api/markers/import", none, some "application/json",
    (MarkerImport.encode ⟨[chest], none⟩).render, .v4 100 127 0 1, none⟩
  let s := (Server.new Settings.standard (.opened .empty)).handleAll []
  let misdirected : Request := { r with path := "/api/markers/done" }
  let simple : Request := { r with contentType := some " Text/plain ;" }
  let foreign : Request := { r with peer := .v4 100 128 0 1 }
  -- The revision of the database counts the import.
  have hchanged : (s.handle 5 r).1.archive ≠ s.archive := by
    intro hsame
    have hrevision := congrArg (fun a => (a.read Database.revision).toOption) hsame
    exact absurd hrevision (by decide +kernel)
  have herror : 400 ≤ (s.handle 5 misdirected).2.response.status := by decide +kernel
  have hsimple : simple.NeedsNoAdvance := by
    intro text htext
    obtain rfl : " Text/plain ;" = text := Option.some.inj htext
    exact .inl (by decide +kernel)
  have hforeign : ¬ foreign.peer.IsLocal := by
    rw [← Address.isAllowed_iff]
    decide
  have hgate := write_gate Settings.standard .empty [] 5
  obtain ⟨hlocal, -, -, -, hstatus⟩ := (hgate r).1 hchanged
  exact ⟨s, r, hchanged, rfl, hlocal, hstatus, (hgate foreign).2.2.2 hforeign,
    (hgate simple).2.2.1 hsimple, (hgate misdirected).2.1 herror⟩

end Server

end MarkerAtlas
