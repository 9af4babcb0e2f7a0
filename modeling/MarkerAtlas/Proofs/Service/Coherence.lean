import MarkerAtlas.Proofs.Session.Coherent
import MarkerAtlas.Service.Router

/-!
# The service stays coherent

The service changes its database and its session by different ways: writes go past the session,
which lists its markers anew afterwards. Every job on an open database ends with a session that
shows what the database lists, and with a response that blames nobody but the request.
-/

namespace MarkerAtlas

variable {bounds : ViewportSettings Float} {now : Int64}

/-! ## Whose progress -/

theorem Owner.isSome_of?_iff (scope : Scope) (characterId : Option String) :
    (Owner.of? scope characterId).isSome = true ↔
      ¬ (scope = .character ∧ (characterId.bind Text.trimmed?).isNone = true) := by
  cases scope with
  | account => simp [Owner.of?, Scope.owner?]
  | character =>
    cases hname : characterId.bind Text.trimmed? <;> simp [Owner.of?, Scope.owner?, hname]

/-- The service asks for a character just where the database would. -/
theorem Job.requireOwner_eq (scope : Scope) (characterId : Option String) (next : Job) :
    requireOwner scope characterId next =
      if (Owner.of? scope characterId).isSome = true then next else respond .characterRequired := by
  unfold requireOwner
  by_cases hlacks : scope = .character ∧ (characterId.bind Text.trimmed?).isNone = true
  · rw [if_pos hlacks, if_neg fun h => (Owner.isSome_of?_iff _ _).mp h hlacks]
  · rw [if_neg hlacks, if_pos ((Owner.isSome_of?_iff _ _).mpr hlacks)]

theorem Database.listMarkers_eq_error_iff (db : Database) (f : MarkerFilter) :
    (∃ why, db.listMarkers f = .error why) ↔
      ¬ (Owner.of? f.scope f.characterId).isSome = true := by
  unfold listMarkers
  cases Owner.of? f.scope f.characterId <;> simp

theorem Database.setDone_eq_noCharacter_iff (db : Database) (now : Int64) (c : SetDone) :
    db.setDone now c = .error .noCharacter ↔
      ¬ (Owner.of? c.scope c.characterId).isSome = true := by
  unfold setDone
  cases Owner.of? c.scope c.characterId with
  | none => simp
  | some owner =>
    simp only [Option.isSome_some, not_true, iff_false]
    split
    · simp
    · split <;> simp

/-! ## Jobs -/

/-- A response to an error of the session blames the request, unless the store failed. -/
theorem Response.ofError_status {e : SessionError} (h : ∀ why, e ≠ .store why) :
    (ofError e).status ≠ 500 := by
  cases e with
  | store why => exact absurd rfl (h why)
  | _ => simp [ofError, failure]

namespace Job

/-- A job that ends well wherever `P` holds of the database and the session: the session is
coherent with the database afterwards, and the response is no server error. -/
def EndsWell (bounds : ViewportSettings Float) (now : Int64)
    (P : Database → Session Float → Prop) (j : Job) : Prop :=
  ∀ db t, P db t → ∃ db' t' r, j.run now ⟨.opened db, t⟩ = (⟨.opened db', t'⟩, r) ∧
    t'.Coherent bounds db' ∧ r.status ≠ 500

/-- A job that ends well on every coherent server. -/
abbrev Safe (bounds : ViewportSettings Float) (now : Int64) (j : Job) : Prop :=
  j.EndsWell bounds now fun db t => t.Coherent bounds db

theorem safe_respond {r : Response} (hr : r.status ≠ 500) : (respond r).Safe bounds now :=
  fun db t ht => ⟨db, t, r, rfl, ht, hr⟩

theorem safe_requireOwner {scope : Scope} {characterId : Option String} {next : Job}
    (h : (Owner.of? scope characterId).isSome = true → next.Safe bounds now) :
    (requireOwner scope characterId next).Safe bounds now := by
  rw [requireOwner_eq]
  split
  · next hsome => exact h hsome
  · exact safe_respond (by simp [Response.characterRequired, Response.failure])

theorem safe_reading {f : Archive → Answer Json}
    (hf : ∀ db, ∃ v, f (.opened db) = .ok v) : (reading f).Safe bounds now := by
  intro db t ht
  obtain ⟨v, hv⟩ := hf db
  refine ⟨db, t, .ok v, ?_, ht, by simp [Response.ok]⟩
  simp only [reading, call, run, hv]

/-- A write that is taken is followed by what has to be done about the session. -/
theorem safe_call {β : Type} {f : Archive → Archive × Answer β} {failed : StoreFailure → Response}
    {next : β → Job}
    (hf : ∀ db, (∃ why, f (.opened db) = (.opened db, .error why) ∧ (failed why).status ≠ 500) ∨
      ∃ db' b, f (.opened db) = (.opened db', .ok b))
    (hnext : ∀ b, (next b).EndsWell bounds now fun _ t => t.Listable bounds) :
    (call f failed next).Safe bounds now := by
  intro db t ht
  rcases hf db with ⟨why, hwhy, hstatus⟩ | ⟨db', b, hb⟩
  · refine ⟨db, t, failed why, ?_, ht, hstatus⟩
    simp only [call, run, hwhy]
  · -- The database has changed under the session, which is listable still, but no more coherent.
    obtain ⟨db'', t', r, hrun, hend⟩ := hnext b db' t ht.toListable
    refine ⟨db'', t', r, ?_, hend⟩
    simp only [call, run, hb]
    exact hrun

/-- A call that leaves a working database as it is if it fails, and working if it succeeds. -/
def CommitsOrFails {β : Type} (f : Archive → Archive × Answer β) : Prop :=
  ∀ db, (∃ why, f (.opened db) = (.opened db, .error why)) ∨
    ∃ db' b, f (.opened db) = (.opened db', .ok b)

theorem commitsOrFails_write {β : Type} (f : Database → Database × β) :
    CommitsOrFails fun a => a.write f := fun _ => .inr ⟨_, _, rfl⟩

theorem commitsOrFails_setDone (now : Int64) (c : SetDone) :
    CommitsOrFails fun a =>
      match a.setDone now c with
      | .error why => (a, .error why)
      | .ok a => (a, .ok ()) := by
  intro db
  simp only [Archive.setDone_opened]
  cases db.setDone now c with
  | error why => exact .inl ⟨why, rfl⟩
  | ok db' => exact .inr ⟨db', (), rfl⟩

/-- The session is brought up to date with a database that was written to past it, which always
succeeds. -/
theorem resync_run {t : Session Float} (ht : t.Listable bounds) (now : Int64) (db : Database)
    (answer : Json) :
    ∃ t', (resync answer).run now ⟨.opened db, t⟩ = (⟨.opened db, t'⟩, .ok answer) ∧
      t'.Coherent bounds db := by
  cases hm : t.metadata with
  | none =>
    refine ⟨t, ?_, ht.coherent hm⟩
    simp only [resync, run, hm, Dialogue.run]
  | some m =>
    obtain ⟨ms, hms, hrun⟩ := Session.refresh_run ht hm now db
    refine ⟨t.relisted ms, ?_, ht.relisted hm hms⟩
    simp only [resync, run, hm, Dialogue.run_map, hrun]

theorem resync_endsWell (answer : Json) :
    (resync answer).EndsWell bounds now fun _ t => t.Listable bounds := by
  intro db t ht
  obtain ⟨t', hrun, hcoherent⟩ := resync_run ht now db answer
  exact ⟨db, t', .ok answer, hrun, hcoherent, by simp [Response.ok]⟩

theorem safe_talk {β : Type} {f : Session Float → Dialogue Float (Session.After Float β)}
    {shown : Session Float → Json}
    (hf : ∀ db t, t.Coherent bounds db →
      Session.Settled bounds ((f t).run (Archive.store now) (.opened db))) :
    (talk f shown).Safe bounds now := by
  intro db t ht
  obtain ⟨⟨db', hdb', hcoherent⟩, hanswered⟩ := hf db t ht
  simp only [talk, run, Dialogue.run_map]
  generalize (f t).run (Archive.store now) (.opened db) = out at *
  obtain ⟨archive, t', result⟩ := out
  obtain rfl : archive = .opened db' := hdb'
  -- Either way the session is coherent; the answer is that of its error, or what is shown.
  cases result with
  | error e =>
    exact ⟨db', t', .ofError e, rfl, hcoherent,
      Response.ofError_status fun why hwhy => hanswered why (congrArg Except.error hwhy)⟩
  | ok b => exact ⟨db', t', .ok (shown t'), rfl, hcoherent, by simp [Response.ok]⟩

/-! ### Jobs within the session -/

/-- The job is one step of the session, which asks no store, leaves what is listed and answers with
no server error. -/
def InSession (j : Job) : Prop :=
  ∃ body : Session Float → Session Float × Response, j = locked (fun t => .done (body t)) ∧
    ∀ t, t.SameListing (body t).1 ∧ (body t).2.status ≠ 500

theorem inSession_withSession {f : Session Float → Session Float} {shown : Session Float → Json}
    (hf : ∀ t : Session Float, t.SameListing (f t)) : (withSession f shown).InSession :=
  ⟨_, rfl, fun t => ⟨hf t, by simp [Response.ok]⟩⟩

theorem inSession_changing {f : Session Float → Session Float × Bool}
    (hf : ∀ t : Session Float, t.SameListing (f t).1) : (changing f).InSession :=
  ⟨_, rfl, fun t => ⟨hf t, by simp [Response.ok]⟩⟩

theorem inSession_attempt {f : Session Float → Session.After Float Unit}
    {shown : Session Float → Json} (hsame : ∀ t : Session Float, t.SameListing (f t).1)
    (hne : ∀ t why, (f t).2 ≠ .error (.store why)) : (attempt f shown).InSession := by
  refine ⟨_, rfl, fun t => ?_⟩
  have hsame := hsame t
  have hne := hne t
  generalize f t = out at hsame hne ⊢
  obtain ⟨t', result⟩ := out
  cases result with
  | error e =>
    exact ⟨hsame, Response.ofError_status fun why hwhy => hne why (congrArg Except.error hwhy)⟩
  | ok _ => exact ⟨hsame, by simp [Response.ok]⟩

theorem inSession_showing {part : Session Float → MapMeta → Viewport Float}
    {shown : Session Float → Json}
    (hpart : ∀ t m, (part t m).settings = t.viewport.settings) :
    (attempt (fun t => t.showing (part t)) shown).InSession :=
  inSession_attempt (fun t => t.sameListing_showing (hpart t))
    fun _ => (Session.showing_outcome _).ne_store

theorem InSession.safe {j : Job} (h : j.InSession) : j.Safe bounds now := by
  obtain ⟨body, rfl, hbody⟩ := h
  intro db t ht
  obtain ⟨hsame, hstatus⟩ := hbody t
  exact ⟨db, (body t).1, (body t).2, rfl, ht.of_sameListing hsame, hstatus⟩

end Job

/-! ## Commands and requests -/

/-- The commands that are carried out in the session, on what it has listed already. -/
def Command.inSession : Command → Bool
  | resize _ | fit | zoomIn | zoomOut | setClustering _ | input _ | tick | frame
  | selectMarker _ | zoomCluster _ | route | generateRoute | nextStep | prevStep | goToStep _
  | clearRoute | centerRoute => true
  | _ => false

open Job Session in
theorem Command.job_inSession {c : Command} (h : c.inSession = true) : (c.job now).InSession := by
  cases c with
  | resize size => exact inSession_withSession fun t => sameListing_resize t size
  | fit => exact inSession_showing fun t m => rfl
  | zoomIn => exact inSession_showing fun t m => (Viewport.sameScreen_zoomIn t.viewport).settings
  | zoomOut => exact inSession_showing fun t m => (Viewport.sameScreen_zoomOut t.viewport).settings
  | setClustering enabled => exact inSession_withSession fun t => ⟨rfl, rfl, rfl, rfl, rfl, rfl⟩
  | input event => exact inSession_changing fun t => sameListing_input t event
  | tick => exact inSession_changing fun t => sameListing_tick t
  | frame => exact inSession_withSession fun t => .refl t
  | selectMarker id =>
    exact inSession_attempt (fun t => t.sameListing_selectMarker id)
      fun t => (selectMarker_outcome id).ne_store
  | zoomCluster key =>
    exact inSession_attempt (fun t => t.sameListing_clickCluster key)
      fun t => (clickCluster_outcome key).ne_store
  | route => exact inSession_withSession fun t => .refl t
  | generateRoute =>
    exact inSession_attempt (fun t => t.sameListing_generateRoute)
      fun t => generateRoute_outcome.ne_store
  | nextStep => exact inSession_withSession fun t => sameListing_goTo t _
  | prevStep => exact inSession_withSession fun t => sameListing_prev t
  | goToStep index => exact inSession_withSession fun t => sameListing_goTo t index
  | clearRoute => exact inSession_withSession fun t => ⟨rfl, rfl, rfl, rfl, rfl, rfl⟩
  | centerRoute => exact inSession_withSession fun t => sameListing_recenter t
  | _ => cases h

open Job Session in
/-- Every command is a job that ends well. -/
theorem Command.safe (c : Command) : (c.job now).Safe bounds now := by
  by_cases hsession : c.inSession = true
  · exact (job_inSession hsession).safe
  -- What is left reads or writes the database, or has the session list its markers anew.
  cases c with
  | health => exact safe_respond (by simp)
  | listMaps => exact safe_reading fun db => ⟨_, rfl⟩
  | listMarkers f =>
    refine safe_requireOwner fun howned => safe_reading fun db => ?_
    obtain ⟨ms, hms⟩ := db.exists_listMarkers howned
    exact ⟨listed Marker.encode ms, by rw [Archive.listMarkers_opened, hms]; rfl⟩
  | setDone c =>
    refine safe_requireOwner fun howned => safe_call (fun db => ?_) fun _ => resync_endsWell _
    -- The owner was asked for before, so that only an unknown marker can be refused.
    cases hknown : db.hasMarker c.markerId with
    | false =>
      rw [Archive.setDone_of_not_hasMarker howned hknown now]
      exact .inl ⟨_, rfl, by simp [Response.ofWriteFailure, Response.failure]⟩
    | true =>
      obtain ⟨db', hdb'⟩ := Archive.setDone_of_hasMarker howned hknown now
      rw [hdb']
      exact .inr ⟨db', (), rfl⟩
  | importMarkers rows =>
    exact safe_call (fun db => .inr ⟨_, _, rfl⟩) fun report => resync_endsWell _
  | backupMarkers => exact safe_reading fun db => ⟨_, rfl⟩
  | backupProgress => exact safe_reading fun db => ⟨_, rfl⟩
  | restoreProgress rows =>
    exact safe_call (fun db => .inr ⟨_, _, rfl⟩) fun report => resync_endsWell _
  | selectMap name => exact safe_talk fun db t ht => ht.selectMap _ now
  | setFilter f =>
    exact safe_requireOwner fun howned => safe_talk fun db t ht => ht.setFilter howned now
  | toggleMarker id =>
    cases id with
    | none => exact safe_respond (by simp [Response.failure])
    | some id => exact safe_talk fun db t ht => ht.toggleDone id now
  | _ => exact absurd rfl hsession

/-- Every request is served by a job that ends well, or is refused. -/
theorem Request.safe (r : Request) : (r.job now).Safe bounds now := by
  unfold Request.job
  -- What is refused, for its peer, its path or its body, never gets to the database or the session.
  split
  · exact Job.safe_respond (by simp [Response.failure])
  · split
    · exact Job.safe_respond (by simp [Response.failure])
    · exact Job.safe_respond (by simp [Response.failure])
    · split
      · next why _ =>
        exact Job.safe_respond (by cases why <;> simp [Response.refused])
      · exact Command.safe _

@[simp] theorem Request.sent_status (r : Request) (response : Response) :
    (r.sent response).status = response.status := by
  unfold Request.sent
  split <;> rfl

/-! ## Runs -/

/-- The bounds of the scale are in order, so that moving a scale between them is always possible. -/
theorem Settings.minScale_le_maxScale {α : Type} [Scalar α] {settings : Settings α}
    (h : settings.fault? = none) : settings.viewport.minScale ≤ settings.viewport.maxScale :=
  (settings.fault?_eq_none_iff.mp h).1.2

namespace Server

/-- The servers that come to be from a new one with an empty database, one request after
another, whatever the requests are and whenever they come. -/
inductive Reachable (settings : Settings Float) : Server → Prop
  | new : Reachable settings (Server.new settings (.opened .empty))
  | handle {s : Server} (now : Int64) (r : Request) (hs : Reachable settings s) :
    Reachable settings (s.handle now r).1

/-- The database is open, and the session shows what it lists. -/
def Coherent (bounds : ViewportSettings Float) (s : Server) : Prop :=
  ∃ db, s.archive = .opened db ∧ s.session.Coherent bounds db

/-- Handling a request keeps a server coherent, and answers with no server error. -/
theorem Coherent.handle {s : Server} (h : s.Coherent bounds) (now : Int64) (r : Request) :
    (s.handle now r).1.Coherent bounds ∧ (s.handle now r).2.response.status ≠ 500 := by
  unfold Server.handle
  by_cases hadvance : r.method = .options
  · rw [if_pos hadvance]
    exact ⟨h, by simp [Request.advanceReply, Response.failure]⟩
  · rw [if_neg hadvance]
    obtain ⟨db, hdb, hcoherent⟩ := h
    obtain ⟨db', t', response, hrun, hend, hstatus⟩ := Request.safe r db s.session hcoherent
    -- How a response is sent does not change its status.
    have hs : s = ⟨.opened db, s.session⟩ := by rw [← hdb]
    rw [hs, hrun]
    refine ⟨⟨db', rfl, hend⟩, ?_⟩
    show (r.sent response).status ≠ 500
    rw [Request.sent_status]
    exact hstatus

theorem Reachable.coherent {settings : Settings Float} {s : Server}
    (h : Reachable settings s) : s.Coherent settings.viewport := by
  induction h with
  | new => exact ⟨.empty, rfl, Session.coherent_new settings .empty⟩
  | handle now r hs ih => exact (ih.handle now r).1

/-- What holds of every server with settings without fault that has handled any requests: if its
session has metadata, it shows just the markers that the database lists under its filter, and no
message; the bounds of its scale are in order; the next request, whatever it is, is not answered
with a server error; and a character is asked for just where the database would refuse to list
markers or to write a flag. -/
theorem Reachable.serves {settings : Settings Float} (hvalid : settings.fault? = none) {s : Server}
    (hs : Reachable settings s) :
    (∃ db, s.archive = .opened db ∧
      (s.session.metadata.isSome = true →
        db.listMarkers s.session.filter = .ok s.session.markers ∧ s.session.pageError = none)) ∧
    s.session.viewport.settings.minScale ≤ s.session.viewport.settings.maxScale ∧
    (∀ (now : Int64) (r : Request), (s.handle now r).2.response.status ≠ 500) ∧
    (∀ (db : Database) (f : MarkerFilter) (next : Job),
      Job.requireOwner f.scope f.characterId next =
        match db.listMarkers f with
        | .error _ => .respond .characterRequired
        | .ok _ => next) ∧
    (∀ (db : Database) (now : Int64) (c : SetDone) (next : Job),
      (db.setDone now c = .error .noCharacter →
        Job.requireOwner c.scope c.characterId next = .respond .characterRequired) ∧
      (db.setDone now c ≠ .error .noCharacter →
        Job.requireOwner c.scope c.characterId next = next)) := by
  have hcoherent := hs.coherent
  refine ⟨?_, ?_, fun now r => (hcoherent.handle now r).2, ?_, ?_⟩
  · obtain ⟨db, hdb, hsession⟩ := hcoherent
    exact ⟨db, hdb, hsession.listed⟩
  · obtain ⟨db, -, hsession⟩ := hcoherent
    rw [hsession.bounds]
    exact Settings.minScale_le_maxScale hvalid
  · intro db f next
    rw [Job.requireOwner_eq]
    by_cases howned : (Owner.of? f.scope f.characterId).isSome = true
    · -- A named owner can always be listed, so that the two tests agree.
      obtain ⟨ms, hms⟩ := db.exists_listMarkers howned
      rw [if_pos howned, hms]
    · obtain ⟨why, hwhy⟩ := (db.listMarkers_eq_error_iff f).mpr howned
      rw [if_neg howned, hwhy]
  · intro db now c next
    rw [Job.requireOwner_eq]
    refine ⟨fun hno => ?_, fun hno => ?_⟩
    · rw [if_neg ((db.setDone_eq_noCharacter_iff now c).mp hno)]
    · rw [if_pos (Decidable.not_not.mp (mt (db.setDone_eq_noCharacter_iff now c).mpr hno))]

/-- A server that was sent a marker and asked for its map. -/
theorem serves_after_import :
    ∃ s : Server, Reachable Settings.standard s ∧ s.session.metadata.isSome = true ∧
      s.session.pageError = none ∧ ∀ now r, (s.handle now r).2.response.status ≠ 500 := by
  let chest : Json :=
    .obj [("id", .str "a"), ("kind", .str "CUBE"), ("map", .str "World_L_A"),
      ("name", .str "Chest")]
  let post (path : String) (body : Json) : Request :=
    ⟨.post, path, none, some "application/json", body.render, .v4 127 0 0 1, none⟩
  let s₀ := Server.new (Settings.standard : Settings Float) (.opened .empty)
  let s₁ := (s₀.handle 0 (post "/api/markers/import" (MarkerImport.encode ⟨[chest], none⟩))).1
  let s₂ := (s₁.handle 1 (post "/api/map/select" (.obj [("map", .str "World_L_A")]))).1
  have hvalid : (Settings.standard : Settings Float).fault? = none := by decide +kernel
  have hs : Reachable Settings.standard s₂ := .handle _ _ (.handle _ _ .new)
  have hsome : s₂.session.metadata.isSome = true := by decide +kernel
  obtain ⟨⟨db, -, hlisted⟩, -, hserved, -⟩ := hs.serves hvalid
  exact ⟨s₂, hs, hsome, (hlisted hsome).2, hserved⟩

end Server

end MarkerAtlas
