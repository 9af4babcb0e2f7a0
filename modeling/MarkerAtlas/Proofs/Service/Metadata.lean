import MarkerAtlas.Proofs.Database.Maps
import MarkerAtlas.Proofs.Service.Gate

/-!
# Where the metadata of the map comes from

The session takes the metadata of a map from the database when the map is selected, and at no other
time: a write that goes past the session has it list its markers anew, but not its map. Whether
the metadata still are what the database lists depends on the markers on the map, and these change
by imports only.

## Plan

* `Job.Keeps`: a job, none of whose parts changes what is looked at.
* `Command.keepsMap`: every command but the change of the map leaves the map and its metadata.
* `Command.keepsMarkers`: every command but the import leaves the stored markers.
* `Server.handle_metadata`: what one request does to the metadata.
* `Server.handleAll_metadata`: the request in a run that the metadata come from.
-/

namespace MarkerAtlas

variable {now : Int64}

/-! ## Paths of commands -/

/-- The path under which a command is asked for. -/
def Command.path : Command → String
  | .health => "/health"
  | .listMaps => "/api/maps"
  | .listMarkers _ => "/api/markers"
  | .setDone _ => "/api/markers/done"
  | .importMarkers _ => "/api/markers/import"
  | .backupMarkers => "/api/backup/markers"
  | .backupProgress => "/api/backup/progress"
  | .restoreProgress _ => "/api/backup/progress"
  | .selectMap _ => "/api/map/select"
  | .setFilter _ => "/api/map/filter"
  | .resize _ => "/api/map/resize"
  | .fit => "/api/map/fit"
  | .zoomIn => "/api/map/zoom-in"
  | .zoomOut => "/api/map/zoom-out"
  | .setClustering _ => "/api/map/clustering"
  | .input _ => "/api/map/input"
  | .tick => "/api/map/tick"
  | .frame => "/api/map/frame"
  | .selectMarker _ => "/api/map/marker/select"
  | .toggleMarker _ => "/api/map/marker/toggle"
  | .zoomCluster _ => "/api/map/cluster/zoom"
  | .route => "/api/route"
  | .generateRoute => "/api/route/generate"
  | .nextStep => "/api/route/next"
  | .prevStep => "/api/route/prev"
  | .goToStep _ => "/api/route/goto"
  | .clearRoute => "/api/route/clear"
  | .centerRoute => "/api/route/center"

namespace Endpoint

/-- Whatever the endpoint reads is asked for under its path. -/
def Names (e : Endpoint) : Prop := ∀ r c, e.read r = .ok c → c.path = e.path

theorem names_ask {path : String} {command : Command} (h : command.path = path) :
    (ask path command).Names := by
  rintro r c ⟨⟩
  exact h

theorem names_tell {path : String} {command : Command} (h : command.path = path) :
    (tell path command).Names := by
  rintro r c ⟨⟩
  exact h

theorem names_filter :
    (⟨.get, "/api/markers", fun r => (readFilter r).map .listMarkers⟩ : Endpoint).Names := by
  intro r c hread
  obtain ⟨f, rfl⟩ := filter_ok hread
  rfl

theorem names_take {β : Type} {path : String} {f : Decoder β} {command : β → Command}
    (h : ∀ b, (command b).path = path) : (take path f command).Names := by
  intro r c hread
  obtain ⟨-, b, rfl⟩ := take_ok hread
  exact h b

theorem names_all : ∀ e ∈ all, e.Names := by
  simp only [all, List.forall_mem_cons, List.not_mem_nil, IsEmpty.forall_iff, implies_true,
    and_true]
  exact ⟨names_ask rfl, names_ask rfl, names_filter, names_take fun _ => rfl,
    names_take fun _ => rfl, names_ask rfl, names_ask rfl, names_take fun _ => rfl,
    names_take fun _ => rfl, names_take fun _ => rfl, names_take fun _ => rfl, names_tell rfl,
    names_tell rfl, names_tell rfl, names_take fun _ => rfl, names_take fun _ => rfl,
    names_tell rfl, names_ask rfl, names_take fun _ => rfl, names_take fun _ => rfl,
    names_take fun _ => rfl, names_ask rfl, names_tell rfl, names_tell rfl, names_tell rfl,
    names_take fun _ => rfl, names_tell rfl, names_tell rfl⟩

end Endpoint

/-- A request is refused, or read into a command that is asked for under its path. -/
theorem Request.job_eq (r : Request) (now : Int64) :
    (∃ response, r.job now = .respond response) ∨
      ∃ c : Command, c.path = r.path ∧ r.job now = c.job now := by
  unfold Request.job
  split
  · exact .inl ⟨_, rfl⟩
  · split
    · exact .inl ⟨_, rfl⟩
    · exact .inl ⟨_, rfl⟩
    · next e hfind =>
      split
      · exact .inl ⟨_, rfl⟩
      · -- The command was read at the path of the request, and the path says which it is.
        next c hread =>
        obtain ⟨hall, hpath, -⟩ := Endpoint.find_some hfind
        exact .inr ⟨c, (Endpoint.names_all e hall r c hread).trans hpath, rfl⟩

/-- A request does nothing, or what a command does that is asked for under its path. -/
theorem Server.handle_eq (s : Server) (now : Int64) (r : Request) :
    (s.handle now r).1 = s ∨
      ∃ c : Command, c.path = r.path ∧ (s.handle now r).1 = ((c.job now).run now s).1 := by
  unfold Server.handle
  split
  · exact .inl rfl
  · rcases r.job_eq now with ⟨response, hjob⟩ | ⟨c, hpath, hjob⟩
    · refine .inl ?_
      rw [hjob]
      rfl
    · refine .inr ⟨c, hpath, ?_⟩
      rw [hjob]

/-! ## Jobs that leave something as it is -/

namespace Job

/-- No part of the job changes what is seen of the server. -/
def Keeps {γ : Type} (seen : Server → γ) (now : Int64) : Job → Prop
  | respond _ => True
  | transact commit resume =>
    (∀ s : Server, seen { s with archive := commit s.archive } = seen s) ∧
      ∀ a, (resume a).Keeps seen now
  | locked body => ∀ s : Server, seen ((locked body).run now s).1 = seen s

section
variable {γ : Type} {seen : Server → γ}

theorem Keeps.run {j : Job} (h : j.Keeps seen now) (s : Server) :
    seen (j.run now s).1 = seen s := by
  induction j generalizing s with
  | respond r => rfl
  | transact commit resume ih =>
    -- The answer is taken from the database as it was before the transaction.
    exact (ih s.archive (h.2 _) { s with archive := commit s.archive }).trans (h.1 s)
  | locked body => exact h s

theorem keeps_requireOwner {scope : Scope} {characterId : Option String} {next : Job}
    (h : next.Keeps seen now) : (requireOwner scope characterId next).Keeps seen now := by
  unfold requireOwner
  split
  · trivial
  · exact h

theorem keeps_call {β : Type} {f : Archive → Archive × Answer β}
    {failed : StoreFailure → Response} {next : β → Job}
    (hf : ∀ s : Server, seen { s with archive := (f s.archive).1 } = seen s)
    (h : ∀ b, (next b).Keeps seen now) : (call f failed next).Keeps seen now := by
  refine ⟨hf, fun a => ?_⟩
  dsimp only
  cases (f a).2 with
  | error why => trivial
  | ok b => exact h b

theorem keeps_reading (f : Archive → Answer Json) : (reading f).Keeps seen now :=
  keeps_call (fun _ => rfl) fun _ => trivial

end

end Job

/-! ## What keeps the map -/

namespace Session

variable {t t' : Session Float}

/-- The map that is selected, and what the session knows of it. -/
def onMap (t : Session Float) : Option String × Option MapMeta := (t.map, t.metadata)

theorem SameListing.onMap_eq (h : t.SameListing t') : t'.onMap = t.onMap :=
  Prod.ext h.map h.metadata

/-- However the dialogue ends, the session has the same map. -/
def StaysOnMap {β : Type} (t : Session Float) (d : Dialogue Float (Session Float × β)) : Prop :=
  ∀ r, d.Yields (fun _ _ => True) r → r.1.onMap = t.onMap

theorem staysOnMap_refresh (t : Session Float) : t.StaysOnMap t.refresh := by
  intro r hr
  obtain ⟨-, rfl⟩ | ⟨-, ⟨why, rfl⟩ | ⟨ms, -, rfl⟩⟩ := refresh_cases hr <;> rfl

theorem staysOnMap_setFilter (t : Session Float) (f : MarkerFilter) :
    t.StaysOnMap (t.setFilter f) := by
  intro r hr
  obtain ⟨-, rfl⟩ | ⟨-, hr⟩ := setFilter_cases hr
  · rfl
  · exact (t.refiltered f).staysOnMap_refresh r hr

theorem staysOnMap_toggleDone (t : Session Float) (id : String) :
    t.StaysOnMap (t.toggleDone id) := by
  intro r hr
  obtain ⟨e, -, rfl⟩ | ⟨m, r', -, hset, rfl⟩ := Session.toggleDone_cases hr
  · rfl
  · obtain ⟨e, -, rfl⟩ | ⟨why, rfl⟩ | hrefresh := setDone_cases hset
    · rfl
    · rfl
    · exact t.staysOnMap_refresh r' hrefresh

/-- What is made of a result that leaves the session does not matter. -/
theorem StaysOnMap.map {β γ : Type} {d : Dialogue Float (Session Float × β)}
    (h : t.StaysOnMap d) {g : Session Float × β → Session Float × γ} (hg : ∀ r, (g r).1 = r.1) :
    t.StaysOnMap (d.map g) := by
  intro r hr
  obtain ⟨r', hr', rfl⟩ := (Dialogue.yields_map _ _ _).mp hr
  rw [hg]
  exact h r' hr'

/-- A change of the map ends without metadata, or with the entry that the database has for it. -/
theorem selectMap_run_metadata {map : String} {a : Archive} {m : MapMeta}
    (h : ((t.selectMap map).run (Archive.store now) a).2.1.metadata = some m) :
    ((t.selectMap map).run (Archive.store now) a).2.1.onMap = (some m.name, some m) ∧
      ∃ db, a = .opened db ∧ db.entry? m.name = some m := by
  cases a with
  | closed why => cases h
  | opened db =>
    have hmaps : (Archive.store now).maps (.opened db) = .ok db.listMaps := rfl
    simp only [selectMap, Dialogue.run, hmaps] at h ⊢
    cases hfind : db.listMaps.find? (·.name == map) with
    | none => simp [hfind, cleared] at h
    | some entry =>
      simp only [hfind, Dialogue.run_map] at h ⊢
      obtain rfl : entry.name = map := by simpa using List.find?_some hfind
      -- Listing the markers and fitting the map leave the entry that was found.
      have hrefresh := staysOnMap_refresh { t.cleared entry.name with metadata := some entry } _
        (Dialogue.yields_run (Archive.store now) _ (.opened db) fun _ _ _ _ => trivial)
      generalize ({ t.cleared entry.name with metadata := some entry } : Session Float).refresh.run
        (Archive.store now) (.opened db) = out at h hrefresh ⊢
      obtain ⟨a, t', result⟩ := out
      -- The metadata that are there in the end are thus the entry, also if the markers could not be
      -- listed.
      cases result with
      | error e =>
        obtain rfl : entry = m := Option.some.inj ((congrArg Prod.snd hrefresh).symm.trans h)
        exact ⟨hrefresh, db, rfl, hfind⟩
      | ok _ =>
        have hfitted := (sameListing_fittedOrDue t' entry).onMap_eq.trans hrefresh
        obtain rfl : entry = m := Option.some.inj ((congrArg Prod.snd hfitted).symm.trans h)
        exact ⟨hfitted, db, rfl, hfind⟩

end Session

/-- The map of the session, and what the session knows of it. -/
def Server.shownMap (s : Server) : Option String × Option MapMeta := s.session.onMap

namespace Job

open Server (shownMap)

theorem keepsMap_locked {body : Session Float → Dialogue Float (Session Float × Response)}
    (h : ∀ t : Session Float, t.StaysOnMap (body t)) : (locked body).Keeps shownMap now :=
  fun s => h _ _ (Dialogue.yields_run (Archive.store now) _ s.archive fun _ _ _ _ => trivial)

theorem keepsMap_resync (answer : Json) : (resync answer).Keeps shownMap now := by
  refine keepsMap_locked fun t => ?_
  cases hm : t.metadata with
  | none =>
    rintro r rfl
    rfl
  | some m =>
    refine t.staysOnMap_refresh.map ?_
    rintro ⟨t', _ | _⟩ <;> rfl

theorem keepsMap_talk {β : Type} {f : Session Float → Dialogue Float (Session.After Float β)}
    {shown : Session Float → Json} (hf : ∀ t : Session Float, t.StaysOnMap (f t)) :
    (talk f shown).Keeps shownMap now := by
  refine keepsMap_locked fun t => (hf t).map ?_
  rintro ⟨t', _ | _⟩ <;> rfl

theorem InSession.keepsMap {j : Job} (h : j.InSession) : j.Keeps shownMap now := by
  obtain ⟨body, rfl, hbody⟩ := h
  exact fun s => (hbody s.session).1.onMap_eq

end Job

open Job Session Server in
/-- Every command but the change of the map leaves the session its map. -/
theorem Command.keepsMap {c : Command} (h : c.path ≠ "/api/map/select") :
    (c.job now).Keeps shownMap now := by
  by_cases hsession : c.inSession = true
  · exact (job_inSession hsession).keepsMap
  -- Past the session a request at most lists the markers anew, and in the session only the change
  -- of the map sets the map or its metadata.
  cases c with
  | health => trivial
  | listMaps => exact keeps_reading _
  | listMarkers f => exact keeps_requireOwner (keeps_reading _)
  | setDone c =>
    exact keeps_requireOwner (keeps_call (fun _ => rfl) fun _ => keepsMap_resync _)
  | importMarkers rows => exact keeps_call (fun _ => rfl) fun _ => keepsMap_resync _
  | backupMarkers => exact keeps_reading _
  | backupProgress => exact keeps_reading _
  | restoreProgress rows => exact keeps_call (fun _ => rfl) fun _ => keepsMap_resync _
  | selectMap name => exact absurd rfl h
  | setFilter f => exact keeps_requireOwner (keepsMap_talk fun t => t.staysOnMap_setFilter f)
  | toggleMarker id =>
    cases id with
    | none => trivial
    | some id => exact keepsMap_talk fun t => t.staysOnMap_toggleDone id
  | _ => exact absurd rfl hsession

/-! ## What keeps the markers -/

theorem Archive.read_markers_of_setDone {a a' : Archive} {c : SetDone}
    (h : a.setDone now c = .ok a') : a'.read Database.markers = a.read Database.markers := by
  obtain ⟨db, db', rfl, hset, rfl⟩ := Archive.setDone_ok h
  exact congrArg Except.ok (Database.isDone_of_setDone hset).1

/-- A dialogue can write flags at most. -/
theorem Dialogue.read_markers_run {β : Type} (d : Dialogue Float β) (a : Archive) :
    (d.run (Archive.store now) a).1.read Database.markers = a.read Database.markers := by
  induction d generalizing a with
  | done b => rfl
  | listMaps k ih => exact ih _ a
  | listMarkers f k ih => exact ih _ a
  | setDone command k ih =>
    simp only [Dialogue.run]
    cases hset : (Archive.store now).setDone a command with
    | error why => exact ih _ a
    | ok a' => exact (ih _ a').trans (Archive.read_markers_of_setDone hset)

/-- The markers that are stored. -/
def Server.storedMarkers (s : Server) : Answer (List StoredMarker) :=
  s.archive.read Database.markers

namespace Job

open Server (storedMarkers)

/-- Nothing that is done with the session imports a marker. -/
theorem keepsMarkers_locked (body : Session Float → Dialogue Float (Session Float × Response)) :
    (locked body).Keeps storedMarkers now := fun s => (body s.session).read_markers_run s.archive

end Job

open Job Server in
/-- Every command but the import leaves the stored markers. -/
theorem Command.keepsMarkers {c : Command} (h : c.path ≠ "/api/markers/import") :
    (c.job now).Keeps storedMarkers now := by
  cases c with
  | health => trivial
  | listMaps => exact keeps_reading _
  | listMarkers f => exact keeps_requireOwner (keeps_reading _)
  | setDone c =>
    refine keeps_requireOwner (keeps_call (fun s => ?_) fun _ => keepsMarkers_locked _)
    -- A flag is kept in a row of its own.
    cases hset : s.archive.setDone now c with
    | error why => rfl
    | ok a' => exact Archive.read_markers_of_setDone hset
  | importMarkers rows => exact absurd rfl h
  | backupMarkers => exact keeps_reading _
  | backupProgress => exact keeps_reading _
  | restoreProgress rows =>
    refine keeps_call (fun s => ?_) fun _ => keepsMarkers_locked _
    obtain ⟨archive, t⟩ := s
    cases archive with
    | closed why => rfl
    | opened db =>
      -- Of a working database, a restore changes the flags and the log only.
      obtain ⟨hafter, -⟩ := db.importProgress_eq now rows.rows
      have hmarkers : (db.importProgress now rows).1.markers = db.markers := by rw [hafter]
      exact congrArg Except.ok hmarkers
  | setFilter f => exact keeps_requireOwner (keepsMarkers_locked _)
  | toggleMarker id =>
    cases id with
    | none => trivial
    | some id => exact keepsMarkers_locked _
  | _ => exact keepsMarkers_locked _

/-! ## One request -/

theorem Job.talk_run_fst {β : Type} (f : Session Float → Dialogue Float (Session.After Float β))
    (shown : Session Float → Json) (s : Server) :
    ((talk f shown).run now s).1 = ⟨((f s.session).run (Archive.store now) s.archive).1,
      ((f s.session).run (Archive.store now) s.archive).2.1⟩ := by
  simp only [talk, run, Dialogue.run_map]
  generalize (f s.session).run (Archive.store now) s.archive = out
  obtain ⟨archive, t, _ | _⟩ := out <;> rfl

theorem Command.eq_selectMap_of_path {c : Command} (h : c.path = "/api/map/select") :
    ∃ name, c = .selectMap name := by
  cases c with
  | selectMap name => exact ⟨name, rfl⟩
  | _ => simp [path] at h

namespace Server

/-- A request leaves the session its map, or it is a change of the map, which notes the entry that
the database has for it. -/
theorem handle_metadata (s : Server) (now : Int64) (r : Request) {m : MapMeta}
    (h : (s.handle now r).1.session.metadata = some m) :
    (s.handle now r).1.shownMap = s.shownMap ∨
      r.path = "/api/map/select" ∧ (s.handle now r).1.shownMap = (some m.name, some m) ∧
        ∃ db, (s.handle now r).1.archive = .opened db ∧ db.entry? m.name = some m := by
  rcases s.handle_eq now r with hsame | ⟨c, hpath, hrun⟩
  · exact .inl (congrArg shownMap hsame)
  -- The path tells whether the command changes the map.
  by_cases hselect : c.path = "/api/map/select"
  · refine .inr ⟨hpath.symm.trans hselect, ?_⟩
    obtain ⟨name, rfl⟩ := Command.eq_selectMap_of_path hselect
    rw [hrun, Command.job, Job.talk_run_fst] at h ⊢
    rw [Session.selectMap_run_fst]
    exact Session.selectMap_run_metadata h
  · rw [hrun]
    exact .inl ((Command.keepsMap hselect).run s)

/-- A request that is no import leaves the stored markers. -/
theorem handle_markers (s : Server) (now : Int64) {r : Request}
    (h : r.path ≠ "/api/markers/import") :
    (s.handle now r).1.storedMarkers = s.storedMarkers := by
  rcases s.handle_eq now r with hsame | ⟨c, hpath, hrun⟩
  · rw [hsame]
  · rw [hrun]
    exact (Command.keepsMarkers (hpath ▸ h)).run s

/-! ## All requests -/

theorem handleAll_append (s : Server) (before after : List (Int64 × Request)) :
    s.handleAll (before ++ after) = (s.handleAll before).handleAll after :=
  List.foldl_append ..

theorem handleAll_markers (s : Server) {requests : List (Int64 × Request)}
    (h : ∀ p ∈ requests, p.2.path ≠ "/api/markers/import") :
    (s.handleAll requests).storedMarkers = s.storedMarkers := by
  induction requests generalizing s with
  | nil => rfl
  | cons p requests ih =>
    rw [List.forall_mem_cons] at h
    exact (ih _ h.2).trans (s.handle_markers p.1 h.1)

/-- After some requests, the request `p` noted the metadata `m` as the entry that the database had
for the map, and the requests after it left the session its map. -/
structure Noted (s : Server) (before : List (Int64 × Request)) (p : Int64 × Request)
    (after : List (Int64 × Request)) (m : MapMeta) : Prop where
  path : p.2.path = "/api/map/select"
  listed : ∃ db, (s.handleAll (before ++ [p])).archive = .opened db ∧ db.entry? m.name = some m
  kept : ∀ later, later <+: after →
    (s.handleAll (before ++ p :: later)).session.map = some m.name ∧
      (s.handleAll (before ++ p :: later)).session.metadata = some m

/-- Metadata were there before all requests, or one of the requests noted them. -/
theorem handleAll_metadata (s : Server) (requests : List (Int64 × Request)) {m : MapMeta}
    (h : (s.handleAll requests).session.metadata = some m) :
    (∀ later, later <+: requests → (s.handleAll later).shownMap = s.shownMap) ∨
      ∃ before p after, requests = before ++ p :: after ∧ s.Noted before p after m := by
  -- By induction on the requests, split at the first one. Of several selections it is the last that
  -- has noted the metadata, so a later one comes first.
  induction requests generalizing s with
  | nil =>
    refine .inl fun later hlater => ?_
    obtain rfl := List.prefix_nil.mp hlater
    rfl
  | cons p requests ih =>
    rcases ih (s.handle p.1 p.2).1 h with hsame | ⟨before, q, after, rfl, hnoted⟩
    · -- No later request noted them, so that they are there after the first one.
      have hnow : (s.handle p.1 p.2).1.session.metadata = some m :=
        (congrArg Prod.snd (hsame requests (List.prefix_refl _))).symm.trans h
      rcases s.handle_metadata p.1 p.2 hnow with hfirst | ⟨hpath, hmap, hlisted⟩
      · refine .inl fun later hlater => ?_
        rcases List.prefix_cons_iff.mp hlater with rfl | ⟨later', rfl, hlater'⟩
        · rfl
        · exact (hsame later' hlater').trans hfirst
      · refine .inr ⟨[], p, requests, rfl, hpath, hlisted, fun later hlater => ?_⟩
        exact Prod.ext_iff.mp ((hsame later hlater).trans hmap)
    · exact .inr ⟨p :: before, q, after, rfl, hnoted.path, hnoted.listed, hnoted.kept⟩

/-- What the metadata of the session are after any requests to a server on a working database. They
are those of the selected map, and a fit shows a map of their size. One of the requests selected
that map, and its entry at that time are the metadata; no request after it changed them. They still
are the entry if none of these was an import. In any case they are if there still are markers on the
map and, where the catalog does not know it, these ask for as many tiles as then; otherwise they are
not. The metadata of a map in the catalog are always those of the catalog. -/
theorem metadata_as_selected (settings : Settings Float) (db₀ : Database)
    (requests : List (Int64 × Request)) :
    let start := Server.new settings (.opened db₀)
    let s := start.handleAll requests
    ∃ db, s.archive = .opened db ∧ ∀ m, s.session.metadata = some m →
      s.session.map = some m.name ∧ s.session.fit = (s.session.fitted m, .ok ()) ∧
      (∃ before p after, requests = before ++ p :: after ∧ start.Noted before p after m ∧
        ((∀ q ∈ after, q.2.path ≠ "/api/markers/import") → db.entry? m.name = some m)) ∧
      (db.entry? m.name = some m ↔
        (∃ marker ∈ db.markers, marker.map = m.name) ∧
          (Catalog.find? m.name = none →
            m.tilesCountX = db.tilesNeeded m.name (·.x) ∧
              m.tilesCountY = db.tilesNeeded m.name (·.y))) ∧
      ∀ known, Catalog.find? m.name = some known → m = known := by
  intro start s
  have hcoherent : s.Coherent settings.viewport :=
    Coherent.handleAll ⟨db₀, rfl, Session.coherent_new settings db₀⟩ requests
  obtain ⟨db, hdb, -⟩ := hcoherent
  refine ⟨db, hdb, fun m hm => ?_⟩
  obtain hsame | ⟨before, p, after, rfl, hnoted⟩ := start.handleAll_metadata requests hm
  · -- A new session has no metadata that could have been kept.
    have hnone : s.session.metadata = none :=
      congrArg Prod.snd (hsame requests (List.prefix_refl _))
    rw [hm] at hnone
    cases hnone
  obtain ⟨db', hdb', hentry⟩ := hnoted.listed
  -- A fit needs metadata only, and these are there.
  have hfit : s.session.fit = (s.session.fitted m, .ok ()) := by
    rw [Session.fit, Session.showing, Session.requireMap_of_some hm]
    rfl
  refine ⟨(hnoted.kept after (List.prefix_refl _)).1, hfit,
    ⟨before, p, after, rfl, hnoted, fun hafter => ?_⟩,
    Database.entry?_eq_some_iff_of_entry? hentry, fun known hknown => ?_⟩
  · -- Without an import the markers are those that the entry was made of.
    have hsplit : s = (start.handleAll (before ++ [p])).handleAll after := by
      rw [← handleAll_append, List.append_assoc]
      rfl
    have hmarkers := (start.handleAll (before ++ [p])).handleAll_markers hafter
    rw [← hsplit, storedMarkers, storedMarkers, hdb, hdb'] at hmarkers
    rw [Database.entry?_congr (Except.ok.inj hmarkers), hentry]
  · -- An entry of a map in the catalog is the one of the catalog.
    rw [← (Database.entry?_eq_some_iff.mp hentry).2, Database.mapMeta_of_find? hknown]

/-- A marker on an island that the catalog does not know is imported. -/
def islandImport (id : String) (x : Int) : Request :=
  let row : Json := .obj [("id", .str id), ("kind", .str "CUBE"), ("map", .str "Island"),
    ("name", .str "Chest"), ("x", .num (.whole x)), ("y", .num (.whole 10))]
  ⟨.post, "/api/markers/import", none, some "application/json",
    (MarkerImport.encode ⟨[row], none⟩).render, .v4 127 0 0 1, none⟩

/-- The island is selected. -/
def islandSelection : Request :=
  ⟨.post, "/api/map/select", none, some "application/json",
    (Json.obj [("map", .str "Island")]).render, .v4 127 0 0 1, none⟩

/-- The island is shown. After the selection there is only a tick, so that the metadata are the
entry that the database has. -/
theorem metadata_fresh_after_tick :
    ∃ requests db m,
      let s := (Server.new Settings.standard (.opened .empty)).handleAll requests
      s.archive = .opened db ∧ s.session.metadata = some m ∧ s.session.map = some m.name ∧
        db.entry? m.name = some m := by
  let tick : Request := ⟨.post, "/api/map/tick", none, none, "", .v4 127 0 0 1, none⟩
  let requests : List (Int64 × Request) :=
    [(0, islandImport "a" 10), (1, islandSelection), (2, tick)]
  have hsome : ((Server.new Settings.standard (.opened .empty)).handleAll
      requests).session.metadata.isSome = true := by decide +kernel
  obtain ⟨m, hm⟩ := Option.isSome_iff_exists.mp hsome
  obtain ⟨db, hdb, hall⟩ := metadata_as_selected Settings.standard .empty requests
  obtain ⟨hmap, -, ⟨before, p, after, hsplit, hnoted, hfresh⟩, -⟩ := hall m hm
  refine ⟨requests, db, m, hdb, hm, hmap, hfresh fun q hq => ?_⟩
  -- The import is the first request, which is no selection.
  cases before with
  | nil =>
    obtain rfl : (0, islandImport "a" 10) = p := (List.cons.inj hsplit).1
    exact absurd hnoted.path (by decide)
  | cons first before =>
    have htail : [(1, islandSelection), (2, tick)] = before ++ p :: after :=
      (List.cons.inj hsplit).2
    have hmem : q ∈ [(1, islandSelection), (2, tick)] := by
      rw [htail]
      exact List.mem_append_right _ (List.mem_cons_of_mem p hq)
    simp only [List.mem_cons, List.not_mem_nil, or_false] at hmem
    rcases hmem with rfl | rfl <;> decide

/-- After the selection another marker is imported, far beyond the one tile that the island had
before. The session goes on with the metadata of the small island. -/
theorem metadata_stale_after_import :
    let s := (Server.new Settings.standard (.opened .empty)).handleAll
      [(0, islandImport "a" 10), (1, islandSelection), (2, islandImport "b" 5000)]
    (Settings.standard : Settings Float).fault? = none ∧
      ∃ db m entry, s.archive = .opened db ∧ s.session.map = some "Island" ∧
        s.session.metadata = some m ∧ db.entry? "Island" = some entry ∧ m ≠ entry ∧
        m.width = 1024 ∧ entry.width = 5120 := by
  -- The server is named by an equation, so that only the check below looks into it.
  obtain ⟨t, ht⟩ : ∃ t, t = (Server.new Settings.standard (.opened .empty)).handleAll
    [(0, islandImport "a" 10), (1, islandSelection), (2, islandImport "b" 5000)] := ⟨_, rfl⟩
  have hwidths : t.session.map = some "Island" ∧ t.session.metadata.map (·.width) = some 1024 ∧
      t.archive.read (fun db => (db.entry? "Island").map (·.width)) = .ok (some 5120) := by
    rw [ht]
    decide +kernel
  intro s
  obtain rfl : t = s := ht
  obtain ⟨hmap, hshown, hlisted⟩ := hwidths
  refine ⟨by decide +kernel, ?_⟩
  obtain ⟨m, hm, hmwidth⟩ := Option.map_eq_some_iff.mp hshown
  cases hdb : s.archive with
  | closed why =>
    rw [hdb] at hlisted
    cases hlisted
  | opened db =>
    rw [hdb] at hlisted
    obtain ⟨entry, hentry, hwidth⟩ := Option.map_eq_some_iff.mp (Except.ok.inj hlisted)
    refine ⟨db, m, entry, rfl, hmap, hm, hentry, ?_, hmwidth, hwidth⟩
    -- Two entries with different widths are not the same.
    rintro rfl
    rw [hmwidth] at hwidth
    exact absurd hwidth (by decide)

end Server

end MarkerAtlas
