import MarkerAtlas.Proofs.Service.Coherence
import MarkerAtlas.Proofs.Session.Atomic
import MarkerAtlas.Service.Traffic

/-!
# No listing gets lost in traffic

Requests write to the database while others have the session or are about to take it, so that the
session may show markers that are no longer what the database lists. But whoever writes lists the
markers afterwards: past the session, a request that waits to do so is there from the write on; in
the session, the listing is the next call. So as long as the session is behind the database there is
somebody who will bring it up to date.

## Invariant

* A request that waits to list the markers anew makes up for anything.
* Without one, `Dialogue.Settles` holds of the request that has the session: if nobody else writes,
  it leaves the session as the database lists, and until then the session is behind only while the
  next step is to list markers or to show them.

The steps are those of `Server.handle`, cut at the calls: a request that is alone comes to the same
(`Traffic.exists_run_handle`).
-/

namespace MarkerAtlas

variable {bounds : ViewportSettings Float} {db : Database}

/-! ## Sessions that are up to date -/

namespace Session

/-- The session shows what the database lists, if it has a map. -/
def Fresh (db : Database) (t : Session Float) : Prop :=
  t.metadata.isSome = true → db.listMarkers t.filter = .ok t.markers

variable {t t' : Session Float}

theorem fresh_of_metadata_none (h : t.metadata = none) : t.Fresh db := by
  intro hsome
  rw [h] at hsome
  cases hsome

theorem Coherent.fresh (h : t.Coherent bounds db) : t.Fresh db := fun hsome => (h.listed hsome).1

theorem Fresh.of_sameListing (h : t.Fresh db) (hsame : t.SameListing t') : t'.Fresh db := by
  unfold Fresh
  rw [hsame.metadata, hsame.filter, hsame.markers]
  exact h

end Session

/-! ## Dialogues -/

namespace Dialogue

variable {β γ : Type}

/-- Wherever the dialogue ends, the session can list its markers. -/
def LeavesListable (bounds : ViewportSettings Float) (d : Dialogue Float (Session Float × β)) :
    Prop := ∀ r, d.Yields (fun _ _ => True) r → r.1.Listable bounds

/-- If nobody else writes, the dialogue leaves a session that is up to date. Until then the session
as it stands is, except before markers are listed and until they are shown. -/
def Settles (db : Database) (current : Session Float) (listed : Bool) :
    Dialogue Float (Session Float × β) → Prop
  | done r => r.1.Fresh db ∧ (listed = false → current.Fresh db)
  | listMaps k => current.Fresh db ∧
      (k (.ok db.listMaps)).Settles db ((k (.ok db.listMaps)).standing current) false
  | listMarkers f k =>
      (k (db.listMarkers f)).Settles db ((k (db.listMarkers f)).standing current) true
  | setDone command k => current.Fresh db ∧ ∀ now,
      match db.setDone now command with
      | .error why => (k (.error why)).Settles db ((k (.error why)).standing current) false
      | .ok db' => (k (.ok ())).Settles db' ((k (.ok ())).standing current) false

/-- What is made of a result shows the same listing. -/
def KeepsListing (g : Session Float × β → Session Float × γ) : Prop :=
  ∀ r : Session Float × β, r.1.SameListing (g r).1

variable {d : Dialogue Float (Session Float × β)} {g : Session Float × β → Session Float × γ}
  {current current' t : Session Float} {listed : Bool}

/-! ### Results that something is made of -/

theorem leftByFailing_map (hg : KeepsListing g)
    (d : Dialogue Float (Session Float × β)) :
    d.leftByFailing.SameListing (d.map g).leftByFailing := by
  -- A failing store ends the dialogue, by induction along the calls it makes.
  induction d with
  | done r => exact hg r
  | listMaps k ih => exact ih _
  | listMarkers f k ih => exact ih _
  | setDone command k ih => exact ih _

theorem standing_map (hg : KeepsListing g) (hcurrent : current.SameListing current')
    (d : Dialogue Float (Session Float × β)) :
    (d.standing current).SameListing ((d.map g).standing current') := by
  cases d with
  | done r => exact hcurrent
  | listMaps k => exact leftByFailing_map hg _
  | listMarkers f k => exact leftByFailing_map hg _
  | setDone command k => exact leftByFailing_map hg _

/-- What is answered in either case does not touch the session. -/
theorem keepsListing_of_fst {g : Session.After Float β → Session Float × γ}
    (herror : ∀ t e, (g (t, .error e)).1 = t) (hok : ∀ t b, (g (t, .ok b)).1 = t) :
    KeepsListing g := by
  -- The session is there whether or not there is an error, and it is the same one either way.
  rintro ⟨t, result⟩
  cases result with
  | error e =>
    rw [herror]
    exact .refl t
  | ok b =>
    rw [hok]
    exact .refl t

/-- What is listed decides whether a dialogue settles. -/
theorem Settles.map (h : d.Settles db current listed) (hg : KeepsListing g)
    (hcurrent : current.SameListing current') : (d.map g).Settles db current' listed := by
  -- By induction on the dialogue. The database may change under it, and so may the session as it
  -- stands, which is why both are general.
  induction d generalizing db current current' listed with
  | done r =>
    exact ⟨h.1.of_sameListing (hg r), fun hlisted => (h.2 hlisted).of_sameListing hcurrent⟩
  | listMaps k ih =>
    exact ⟨h.1.of_sameListing hcurrent, ih _ h.2 (standing_map hg hcurrent _)⟩
  | listMarkers f k ih => exact ih _ h (standing_map hg hcurrent _)
  | setDone command k ih =>
    refine ⟨h.1.of_sameListing hcurrent, fun now => ?_⟩
    have hnow := h.2 now
    -- A refused write leaves the database; one that succeeds goes on with the new one.
    cases hset : db.setDone now command with
    | error why =>
      rw [hset] at hnow
      exact ih _ hnow (standing_map hg hcurrent _)
    | ok db' =>
      rw [hset] at hnow
      exact ih _ hnow (standing_map hg hcurrent _)

theorem Settles.map_standing (h : d.Settles db (d.standing current) listed)
    (hg : KeepsListing g) : (d.map g).Settles db ((d.map g).standing current) listed :=
  h.map hg (standing_map hg (.refl current) d)

theorem LeavesListable.map (h : d.LeavesListable bounds) (hg : KeepsListing g) :
    (d.map g).LeavesListable bounds := by
  intro r hr
  obtain ⟨r', hr', rfl⟩ := (yields_map _ _ _).mp hr
  exact (h r' hr').of_sameListing (hg r')

end Dialogue

/-! ## What the session does -/

namespace Session

variable {t current : Session Float} {listed : Bool}

/-! ### Sessions that can list -/

theorem Listable.leaves_refresh (h : t.Listable bounds) : t.refresh.LeavesListable bounds := by
  intro r hr
  obtain ⟨-, rfl⟩ | ⟨hsome, ⟨why, rfl⟩ | ⟨ms, -, rfl⟩⟩ := refresh_cases hr
  · exact h
  · exact h.withPageError _
  · exact h.relist hsome ms

theorem Listable.leaves_selectMap (h : t.Listable bounds) (map : String) :
    (t.selectMap map).LeavesListable bounds := by
  intro r hr
  -- No listing of maps, no such map, no listing of its markers, or success.
  obtain ⟨why, rfl⟩ | rfl | ⟨m, -, ⟨why, rfl⟩ | ⟨ms, -, rfl⟩⟩ := selectMap_cases hr
  · exact (h.cleared map).withPageError _
  · exact (h.cleared map).withPageError _
  · exact (h.entered map m).withPageError _
  · exact ((h.entered map m).relist rfl ms).of_sameListing (sameListing_fittedOrDue _ m)

theorem Listable.leaves_setFilter (h : t.Listable bounds) {f : MarkerFilter}
    (hf : (Owner.of? f.scope f.characterId).isSome = true) :
    (t.setFilter f).LeavesListable bounds := by
  intro r hr
  obtain ⟨-, rfl⟩ | ⟨-, hr⟩ := setFilter_cases hr
  · exact h.refiltered hf
  · exact (h.refiltered hf).leaves_refresh r hr

theorem Listable.leaves_toggleDone (h : t.Listable bounds) (id : String) :
    (t.toggleDone id).LeavesListable bounds := by
  intro r hr
  obtain ⟨e, -, rfl⟩ | ⟨m, r', -, hset, rfl⟩ := Session.toggleDone_cases hr
  · exact h
  · obtain ⟨e, -, rfl⟩ | ⟨why, rfl⟩ | hrefresh := setDone_cases hset
    · exact h
    · exact h.withPageError _
    · exact h.leaves_refresh r' hrefresh

/-! ### Sessions that end up to date -/

theorem refresh_of_metadata_none (h : t.metadata = none) :
    t.refresh = .done (t, .error t.lacksMap) := by
  simp only [refresh, requireMap, h]

/-- With metadata, the markers are listed at once, so that it does not matter how far the session is
behind. -/
theorem Listable.settles_refresh (h : t.Listable bounds)
    (hcurrent : t.metadata = none → current.Fresh db) : t.refresh.Settles db current listed := by
  -- Without metadata nothing is shown, and nothing is listed either.
  cases hm : t.metadata with
  | none =>
    rw [refresh_of_metadata_none hm]
    exact ⟨fresh_of_metadata_none hm, fun _ => hcurrent hm⟩
  | some m =>
    obtain ⟨ms, hms⟩ := db.exists_listMarkers h.owned
    simp only [Session.refresh, requireMap, hm, Dialogue.Settles, hms]
    exact ⟨fun _ => hms, fun hlisted => by cases hlisted⟩

theorem Listable.settles_selectMap (h : t.Listable bounds) (map : String) :
    (t.selectMap map).Settles db ((t.selectMap map).standing t) false := by
  -- Without metadata the session shows nothing and is not behind.
  have hcleared : ((t.selectMap map).standing t).Fresh db := fresh_of_metadata_none rfl
  generalize (t.selectMap map).standing t = current at hcleared ⊢
  simp only [selectMap, Dialogue.Settles]
  refine ⟨hcleared, ?_⟩
  cases db.listMaps.find? (·.name == map) with
  | none => exact ⟨fresh_of_metadata_none rfl, fun _ => hcleared⟩
  | some m =>
    -- The markers of the new map are listed next, whatever the session shows by then.
    have hrefresh : ({ t.cleared map with metadata := some m } : Session Float).refresh.Settles db
        (({ t.cleared map with metadata := some m } : Session Float).refresh.standing current)
        false := (h.entered map m).settles_refresh fun hnone => by cases hnone
    refine hrefresh.map_standing ?_
    rintro ⟨t', result⟩
    cases result with
    | error e => exact .refl t'
    | ok _ => exact sameListing_fittedOrDue t' m

theorem Listable.settles_setFilter (h : t.Listable bounds) {f : MarkerFilter}
    (hf : (Owner.of? f.scope f.characterId).isSome = true) :
    (t.setFilter f).Settles db ((t.setFilter f).standing t) false := by
  -- Without a map the filter is only kept. With one the markers are listed under it at once, and
  -- the session is behind by the filter until they are.
  cases hmap : t.map with
  | none =>
    have hnone : t.metadata = none := h.unmapped hmap
    have hdone : t.setFilter f = .done (t.refiltered f, .ok ()) := by
      simp only [setFilter, Session.refiltered, hmap]
    rw [hdone]
    exact ⟨fresh_of_metadata_none hnone, fun _ => fresh_of_metadata_none hnone⟩
  | some map =>
    have hrefresh : t.setFilter f = (t.refiltered f).refresh := by
      simp only [setFilter, Session.refiltered, hmap]
    rw [hrefresh]
    refine (h.refiltered hf).settles_refresh fun hnone => ?_
    rw [refresh_of_metadata_none hnone]
    exact fresh_of_metadata_none hnone

/-- After the write, the markers are listed. -/
theorem Fresh.settles_setDone (hfresh : t.Fresh db) (h : t.Listable bounds) {id : String}
    {m : Marker Float} (hm : t.marker id = .ok m) (done : Bool) :
    (t.setDone id done).Settles db ((t.setDone id done).standing t) false := by
  have hcurrent : ((t.setDone id done).standing t).Fresh db := by
    rw [setDone_of_ok hm]
    exact hfresh
  generalize (t.setDone id done).standing t = current at hcurrent ⊢
  rw [setDone_of_ok hm]
  refine ⟨hcurrent, fun now => ?_⟩
  cases db.setDone now (t.command id done) with
  | error why => exact ⟨hfresh, fun _ => hcurrent⟩
  | ok db' =>
    -- From the write on the session is behind, but it has the marker, so that it has a map and
    -- lists.
    refine h.settles_refresh fun hnone => ?_
    have hsome := h.metadata_isSome_of_marker hm
    rw [hnone] at hsome
    cases hsome

theorem Fresh.settles_toggleDone (hfresh : t.Fresh db) (h : t.Listable bounds) (id : String) :
    (t.toggleDone id).Settles db ((t.toggleDone id).standing t) false := by
  cases hm : t.marker id with
  | error e =>
    rw [toggleDone_of_error hm]
    exact ⟨hfresh, fun _ => hfresh⟩
  | ok m =>
    rw [toggleDone_of_ok hm]
    exact (hfresh.settles_setDone h hm _).map_standing fun r => .refl r.1

end Session

/-! ## Jobs -/

namespace Job

/-- A job that does not get lost: a transaction that changes the database is followed by the listing
of the markers, and what is done with a session that is up to date leaves it so. -/
def Minds (bounds : ViewportSettings Float) : Job → Prop
  | respond _ => True
  | transact commit resume => ∀ db, ∃ db', commit (.opened db) = .opened db' ∧
      (resume (.opened db)).Minds bounds ∧
      (db' = db ∨ ∃ answer, resume (.opened db) = resync answer)
  | locked body => ∀ t, t.Listable bounds → (body t).LeavesListable bounds ∧
      ∀ db, t.Fresh db → (body t).Settles db ((body t).standing t) false

theorem minds_requireOwner {scope : Scope} {characterId : Option String} {next : Job}
    (h : (Owner.of? scope characterId).isSome = true → next.Minds bounds) :
    (requireOwner scope characterId next).Minds bounds := by
  rw [requireOwner_eq]
  split
  · next hsome => exact h hsome
  · trivial

theorem minds_reading {f : Archive → Answer Json} : (reading f).Minds bounds := by
  intro db
  -- Whatever is read, the database is the same.
  refine ⟨db, rfl, ?_, .inl rfl⟩
  dsimp only
  cases f (.opened db) <;> trivial

/-- The markers are listed anew, however far the session is behind. -/
theorem settles_resync {answer : Json}
    {body : Session Float → Dialogue Float (Session Float × Response)}
    (hbody : resync answer = locked body) {t : Session Float} (ht : t.Listable bounds) :
    (body t).LeavesListable bounds ∧
      ∀ db, (body t).Settles db ((body t).standing t) false := by
  obtain rfl := locked.inj hbody
  -- A session without a map has nothing to list and is not behind.
  cases hm : t.metadata with
  | none =>
    simp only [hm]
    refine ⟨?_, fun db => ?_⟩
    · rintro r rfl
      exact ht
    · exact ⟨Session.fresh_of_metadata_none hm, fun _ => Session.fresh_of_metadata_none hm⟩
  | some m =>
    simp only [hm]
    refine ⟨ht.leaves_refresh.map (Dialogue.keepsListing_of_fst (fun _ _ => rfl) fun _ _ => rfl),
      fun db => Dialogue.Settles.map_standing (ht.settles_refresh fun hnone => ?_)
        (Dialogue.keepsListing_of_fst (fun _ _ => rfl) fun _ _ => rfl)⟩
    rw [hm] at hnone
    cases hnone

theorem minds_resync (answer : Json) : (resync answer).Minds bounds := fun _ ht =>
  ⟨(settles_resync rfl ht).1, fun db _ => (settles_resync rfl ht).2 db⟩

/-- A call after which the markers are listed anew, if it did not fail. -/
theorem minds_call {β : Type} {f : Archive → Archive × Answer β}
    {failed : StoreFailure → Response} {answer : β → Json}
    (hf : CommitsOrFails f) :
    (call f failed fun b => resync (answer b)).Minds bounds := by
  intro db
  dsimp only
  -- A call that fails has not written; after one that has, the job is to list the markers anew.
  rcases hf db with ⟨why, hwhy⟩ | ⟨db', b, hb⟩
  · rw [hwhy]
    exact ⟨db, rfl, trivial, .inl rfl⟩
  · rw [hb]
    exact ⟨db', rfl, minds_resync _, .inr ⟨answer b, rfl⟩⟩

theorem minds_talk {β : Type} {f : Session Float → Dialogue Float (Session.After Float β)}
    {shown : Session Float → Json}
    (hleaves : ∀ t : Session Float, t.Listable bounds → (f t).LeavesListable bounds)
    (hsettles : ∀ t db, t.Listable bounds → t.Fresh db →
      (f t).Settles db ((f t).standing t) false) : (talk f shown).Minds bounds := by
  intro t ht
  refine ⟨(hleaves t ht).map (Dialogue.keepsListing_of_fst (fun _ _ => rfl) fun _ _ => rfl),
    fun db hfresh => ?_⟩
  exact (hsettles t db ht hfresh).map_standing
    (Dialogue.keepsListing_of_fst (fun _ _ => rfl) fun _ _ => rfl)

theorem InSession.minds {j : Job} (h : j.InSession) : j.Minds bounds := by
  obtain ⟨body, rfl, hbody⟩ := h
  intro t ht
  have hsame := (hbody t).1
  refine ⟨?_, fun db hfresh => ⟨hfresh.of_sameListing hsame, fun _ => hfresh⟩⟩
  rintro r rfl
  exact ht.of_sameListing hsame

end Job

open Job Session in
theorem Command.minds (now : Int64) (c : Command) : (c.job now).Minds bounds := by
  by_cases hsession : c.inSession = true
  · exact (job_inSession hsession).minds
  -- Requests past the session read, or write and list anew; those that are left list themselves.
  cases c with
  | health => trivial
  | listMaps => exact minds_reading
  | listMarkers f => exact minds_requireOwner fun _ => minds_reading
  | setDone c =>
    exact minds_requireOwner fun _ => minds_call (commitsOrFails_setDone now c)
  | importMarkers rows => exact minds_call (commitsOrFails_write _)
  | backupMarkers => exact minds_reading
  | backupProgress => exact minds_reading
  | restoreProgress rows => exact minds_call (commitsOrFails_write _)
  | selectMap name =>
    exact minds_talk (fun t ht => ht.leaves_selectMap _) fun t db ht _ => ht.settles_selectMap _
  | setFilter f =>
    exact minds_requireOwner fun howned => minds_talk (fun t ht => ht.leaves_setFilter howned)
      fun t db ht _ => ht.settles_setFilter howned
  | toggleMarker id =>
    cases id with
    | none => trivial
    | some id =>
      exact minds_talk (fun t ht => ht.leaves_toggleDone id)
        fun t db ht hfresh => hfresh.settles_toggleDone ht id
  | _ => exact absurd rfl hsession

/-- Every request is served by a job that minds the listing, or is refused. -/
theorem Request.minds (now : Int64) (r : Request) : (r.task now).Minds bounds := by
  -- What has no route, the wrong method, no right to write or a body that cannot be read is
  -- answered at once.
  unfold Request.task Request.job
  split
  · trivial
  · split
    · trivial
    · split
      · trivial
      · trivial
      · split
        · trivial
        · exact Command.minds now _

/-! ## Traffic -/

/-- A request that waits to list the markers anew does so as soon as it has a session with a map. -/
theorem Job.relists_resync (answer : Json) : (resync answer).Relists := by
  intro s hsome
  obtain ⟨m, hm⟩ := Option.isSome_iff_exists.mp hsome
  simp only [hm, Session.refresh, Session.requireMap]
  rfl

namespace Traffic

variable {t : Traffic}

/-! ### One request at a time -/

/-- The request that has the session gets to its end if nobody gets in between: it does what its
calls do in a row. -/
theorem exists_run_section (now : Int64) {c : Section} (hactive : t.active = some c) :
    ∃ turns, t.run turns =
      { t with
        archive := (c.rest.run (Archive.store now) t.archive).1
        session := (c.rest.run (Archive.store now) t.archive).2.1
        active := none
        responses := t.responses ++ [(c.rest.run (Archive.store now) t.archive).2.2] } := by
  obtain ⟨session, listed, rest⟩ := c
  -- Each call is answered in one step, from the archive as the calls before have left it.
  induction rest generalizing t session listed with
  | done r => exact ⟨[.goOn now], by simp only [run, List.foldl, step, goOn, hactive]; rfl⟩
  | listMaps k ih =>
    obtain ⟨turns, hturns⟩ := ih _ (t := t.goOn now) _ _ (by simp only [goOn, hactive]; rfl)
    refine ⟨.goOn now :: turns, hturns.trans ?_⟩
    simp only [goOn, hactive, Dialogue.run]
  | listMarkers f k ih =>
    obtain ⟨turns, hturns⟩ := ih _ (t := t.goOn now) _ _ (by simp only [goOn, hactive]; rfl)
    refine ⟨.goOn now :: turns, hturns.trans ?_⟩
    simp only [goOn, hactive, Dialogue.run]
  | setDone command k ih =>
    cases hset : (Archive.store now).setDone t.archive command with
    | error why =>
      obtain ⟨turns, hturns⟩ := ih _ (t := t.goOn now) _ _ (by simp only [goOn, hactive, hset]; rfl)
      refine ⟨.goOn now :: turns, hturns.trans ?_⟩
      simp only [goOn, hactive, Dialogue.run, hset]
    | ok a =>
      obtain ⟨turns, hturns⟩ := ih _ (t := t.goOn now) _ _ (by simp only [goOn, hactive, hset]; rfl)
      refine ⟨.goOn now :: turns, hturns.trans ?_⟩
      simp only [goOn, hactive, Dialogue.run, hset]

/-- The only request gets to its end, and does what its job does. -/
theorem exists_run_job (now : Int64) (j : Job) (s : Server) (responses : List Response) :
    ∃ turns, (⟨s.archive, s.session, [j], none, responses⟩ : Traffic).run turns =
      { ofServer (j.run now s).1 with responses := responses ++ [(j.run now s).2] } := by
  -- The parts of a job come one after another; the last one may need the session, which is free.
  induction j generalizing s with
  | respond r => exact ⟨[.proceed 0], rfl⟩
  | transact commit resume ih =>
    obtain ⟨turns, hturns⟩ := ih s.archive { s with archive := commit s.archive }
    exact ⟨.proceed 0 :: turns, hturns⟩
  | locked body =>
    obtain ⟨turns, hturns⟩ := exists_run_section now
      (t := (⟨s.archive, s.session, [.locked body], none, responses⟩ : Traffic).proceed 0) rfl
    exact ⟨.proceed 0 :: turns, hturns⟩

/-- A request that is alone is served as `Server.handle` serves it. -/
theorem exists_run_handle (s : Server) (now : Int64) (r : Request) :
    ∃ turns response, (ofServer s).run (.arrive now r :: turns) =
        { ofServer (s.handle now r).1 with responses := [response] } ∧
      (s.handle now r).2.response = r.sent response := by
  obtain ⟨turns, hturns⟩ := exists_run_job now (r.task now) s []
  refine ⟨turns, ((r.task now).run now s).2, ?_, ?_⟩
  · refine hturns.trans ?_
    unfold Request.task Server.handle
    split <;> rfl
  · unfold Request.task Server.handle
    split
    · next hoptions =>
      simp only [Request.sent, hoptions]
      rfl
    · rfl

/-! ### The invariant -/

/-- Nobody is behind: the session is up to date, or the request that has it will leave it so. -/
def Settled (db : Database) (t : Traffic) : Prop :=
  match t.active with
  | none => t.session.Fresh db
  | some c => c.rest.Settles db c.session c.listed

/-- Every request minds the listing, and if nobody waits to list the markers anew, nobody has to. -/
structure Minded (bounds : ViewportSettings Float) (t : Traffic) : Prop where
  listable : t.session.Listable bounds
  waiting : ∀ j ∈ t.waiting, j.Minds bounds
  active : ∀ c, t.active = some c → c.rest.LeavesListable bounds
  settled : ∃ db, t.archive = .opened db ∧
    ((∃ answer, Job.resync answer ∈ t.waiting) ∨ t.Settled db)

/-! ### Steps of requests that do not have the session -/

theorem mem_eraseIdx_of_ne {α : Type} {x y : α} {l : List α} {i : Nat} (hx : x ∈ l)
    (hy : l[i]? = some y) (hne : x ≠ y) : x ∈ l.eraseIdx i := by
  obtain ⟨j, hj⟩ := List.mem_iff_getElem?.mp hx
  refine List.mem_eraseIdx_iff_getElem?.mpr ⟨j, ?_, hj⟩
  rintro rfl
  exact hne (Option.some.inj (hj.symm.trans hy))

theorem mem_set_of_ne {α : Type} {x y z : α} {l : List α} {i : Nat} (hx : x ∈ l)
    (hy : l[i]? = some y) (hne : x ≠ y) : x ∈ l.set i z := by
  obtain ⟨j, hj⟩ := List.mem_iff_getElem?.mp hx
  -- The place that is set held something else.
  have hij : i ≠ j := by
    rintro rfl
    exact hne (Option.some.inj (hj.symm.trans hy))
  exact List.mem_iff_getElem?.mpr ⟨j, (List.getElem?_set_ne hij).trans hj⟩

theorem Minded.arrive (h : t.Minded bounds) (now : Int64) (r : Request) :
    (t.step (.arrive now r)).Minded bounds where
  listable := h.listable
  waiting := by
    intro j hj
    -- The one that arrives minds the listing as well, and those that wait go on waiting.
    rcases List.mem_append.mp hj with hj | hj
    · exact h.waiting j hj
    · obtain rfl := List.mem_singleton.mp hj
      exact r.minds now
  active := h.active
  settled := by
    obtain ⟨db, hdb, ⟨answer, hanswer⟩ | hsettled⟩ := h.settled
    · exact ⟨db, hdb, .inl ⟨answer, List.mem_append_left _ hanswer⟩⟩
    · exact ⟨db, hdb, .inr hsettled⟩

/-- A request that has been answered drops out. -/
theorem Minded.respond (h : t.Minded bounds) {place : Nat} {r : Response}
    (hr : t.waiting[place]? = some (.respond r)) : (t.proceed place).Minded bounds := by
  simp only [proceed, hr]
  obtain ⟨db, hdb, hsettled⟩ := h.settled
  refine ⟨h.listable, fun j hj => h.waiting j (List.mem_of_mem_eraseIdx hj), h.active, db, hdb, ?_⟩
  rcases hsettled with ⟨answer, hanswer⟩ | hsettled
  · -- What has been answered was not the one that lists anew.
    exact .inl ⟨answer, mem_eraseIdx_of_ne hanswer hr fun heq => by cases heq⟩
  · exact .inr hsettled

/-- A transaction leaves the database as it is, or its request waits to list the markers anew. -/
theorem Minded.transact (h : t.Minded bounds) {place : Nat} {commit : Archive → Archive}
    {resume : Archive → Job} (hj : t.waiting[place]? = some (.transact commit resume)) :
    (t.proceed place).Minded bounds := by
  simp only [proceed, hj]
  obtain ⟨db, hdb, hsettled⟩ := h.settled
  have hlt : place < t.waiting.length := (List.getElem?_eq_some_iff.mp hj).1
  obtain ⟨db', hcommit, hresume, hlisted⟩ := h.waiting _ (List.mem_of_getElem? hj) db
  refine ⟨h.listable, ?_, h.active, db', by rw [hdb, hcommit], ?_⟩
  · intro j hmem
    rcases List.mem_or_eq_of_mem_set hmem with hmem | rfl
    · exact h.waiting j hmem
    · rw [hdb]
      exact hresume
  · -- An unchanged database owes nothing. A changed one is made up for by this very request, whose
    -- next part is to list anew.
    rcases hlisted with rfl | ⟨answer, hanswer⟩
    · rcases hsettled with ⟨answer, hmem⟩ | hsettled
      · exact .inl ⟨answer, mem_set_of_ne hmem hj fun heq => by cases heq⟩
      · exact .inr hsettled
    · refine .inl ⟨answer, ?_⟩
      rw [hdb, hanswer]
      exact List.mem_set hlt _

/-- A request that takes the session finds it up to date, or lists the markers itself, or leaves
another that waits to do so. -/
theorem Minded.enter (h : t.Minded bounds) {place : Nat}
    {body : Session Float → Dialogue Float (Session Float × Response)}
    (hj : t.waiting[place]? = some (.locked body)) : (t.proceed place).Minded bounds := by
  -- As long as another request has the session, this one waits on.
  cases hactive : t.active with
  | some c =>
    simp only [proceed, hj, hactive]
    exact h
  | none =>
    simp only [proceed, hj, hactive]
    obtain ⟨db, hdb, hsettled⟩ := h.settled
    have hminds := h.waiting _ (List.mem_of_getElem? hj) t.session h.listable
    refine ⟨h.listable, fun j hmem => h.waiting j (List.mem_of_mem_eraseIdx hmem), ?_, db, hdb, ?_⟩
    · intro c hc
      obtain rfl := Option.some.inj hc
      exact hminds.1
    · rcases hsettled with ⟨answer, hmem⟩ | hsettled
      · -- If this is the request that was to list anew, it does so now; otherwise that one is still
        -- waiting.
        by_cases hresync : Job.resync answer = .locked body
        · exact .inr ((Job.settles_resync hresync h.listable).2 db)
        · exact .inl ⟨answer, mem_eraseIdx_of_ne hmem hj hresync⟩
      · have hfresh : t.session.Fresh db := by
          simp only [Settled, hactive] at hsettled
          exact hsettled
        exact .inr (hminds.2 db hfresh)

theorem Minded.proceed (h : t.Minded bounds) (place : Nat) :
    (t.step (.proceed place)).Minded bounds := by
  show (t.proceed place).Minded bounds
  cases hj : t.waiting[place]? with
  | none =>
    simp only [Traffic.proceed, hj]
    exact h
  | some j =>
    cases j with
    | respond r => exact h.respond hj
    | transact commit resume => exact h.transact hj
    | locked body => exact h.enter hj

/-! ### Steps of the request that has the session -/

/-- The request goes on after a call that has left the database as `db`. -/
theorem Minded.goesOn (h : t.Minded bounds) {c : Section} {a : Archive} {db : Database}
    (ha : a = .opened db) {listed : Bool} {rest : Dialogue Float (Session Float × Response)}
    (hleaves : rest.LeavesListable bounds)
    (hsettled : (∃ answer, Job.resync answer ∈ t.waiting) ∨
      rest.Settles db (rest.standing c.session) listed) :
    ({ t with archive := a, active := some (.goingOn c.session listed rest) } :
      Traffic).Minded bounds := by
  refine ⟨h.listable, h.waiting, ?_, db, ha, hsettled⟩
  intro c' hc'
  obtain rfl := Option.some.inj hc'
  exact hleaves

theorem Minded.goOn (h : t.Minded bounds) (now : Int64) : (t.step (.goOn now)).Minded bounds := by
  show (t.goOn now).Minded bounds
  cases hactive : t.active with
  | none =>
    simp only [Traffic.goOn, hactive]
    exact h
  | some c =>
    obtain ⟨db, hdb, hsettled⟩ := h.settled
    have hleaves := h.active c hactive
    have hsettled : (∃ answer, Job.resync answer ∈ t.waiting) ∨
        c.rest.Settles db c.session c.listed := by
      simpa only [Settled, hactive] using hsettled
    simp only [Traffic.goOn, hactive]
    -- One case for each call the request may make next, answered from the archive as it is now:
    -- others may have written since its last call.
    cases hrest : c.rest with
    | done r =>
      rw [hrest] at hleaves hsettled
      refine ⟨hleaves r rfl, h.waiting, ?_, db, hdb, ?_⟩
      · intro c' hc'
        cases hc'
      · -- The session is given back as the request leaves it.
        exact hsettled.imp_right fun hsettles => hsettles.1
    | listMaps k =>
      rw [hrest] at hleaves hsettled
      have hmaps : (Archive.store now).maps t.archive = .ok db.listMaps := by
        rw [hdb]
        rfl
      simp only [hmaps]
      refine h.goesOn hdb ?_ (hsettled.imp_right fun hsettles => hsettles.2)
      exact fun r hr => hleaves r ⟨_, hr⟩
    | listMarkers f k =>
      rw [hrest] at hleaves hsettled
      have hmarkers : (Archive.store now).markers t.archive f = db.listMarkers f := by
        rw [hdb]
        exact Archive.listMarkers_opened db f
      simp only [hmarkers]
      refine h.goesOn hdb ?_ (hsettled.imp_right fun hsettles => hsettles)
      exact fun r hr => hleaves r ⟨_, fun _ _ => trivial, hr⟩
    | setDone command k =>
      rw [hrest] at hleaves hsettled
      have hset : (Archive.store now).setDone t.archive command =
          (db.setDone now command).map .opened := by
        rw [hdb]
        exact Archive.setDone_opened db now command
      simp only [hset]
      cases hwritten : db.setDone now command with
      | error why =>
        refine h.goesOn hdb (fun r hr => hleaves r ⟨_, hr⟩) (hsettled.imp_right fun hsettles => ?_)
        have hnow := hsettles.2 now
        rw [hwritten] at hnow
        exact hnow
      | ok db' =>
        refine h.goesOn rfl (fun r hr => hleaves r ⟨_, hr⟩) (hsettled.imp_right fun hsettles => ?_)
        have hnow := hsettles.2 now
        rw [hwritten] at hnow
        exact hnow

/-! ### Runs -/

theorem Minded.step (h : t.Minded bounds) (turn : Turn) : (t.step turn).Minded bounds := by
  cases turn with
  | arrive now r => exact h.arrive now r
  | proceed place => exact h.proceed place
  | goOn now => exact h.goOn now

theorem Minded.run (h : t.Minded bounds) (turns : List Turn) : (t.run turns).Minded bounds := by
  -- By induction along the run.
  induction turns generalizing t with
  | nil => exact h
  | cons turn turns ih => exact ih (h.step turn)

theorem minded_new (settings : Settings Float) (db : Database) :
    (ofServer (Server.new settings (.opened db))).Minded settings.viewport where
  listable := (Session.coherent_new settings db).toListable
  waiting := by
    intro j hj
    cases hj
  active := by
    intro c hc
    cases hc
  settled := ⟨db, rfl, .inr (Session.coherent_new settings db).fresh⟩

/-- The session that a request has is behind only while the request is about to list markers or to
show them. -/
theorem relists_of_settles {db : Database} {c : Section}
    (h : c.rest.Settles db c.session c.listed) (hbehind : ¬ c.session.Fresh db) :
    c.relists = true := by
  obtain ⟨session, listed, rest⟩ := c
  -- Only two cases are behind: before a listing, and behind one that has been read but is not
  -- shown.
  cases rest with
  | done r =>
    cases listed with
    | false => exact absurd (h.2 rfl) hbehind
    | true => rfl
  | listMaps k => exact absurd h.1 hbehind
  | listMarkers f k =>
    cases listed <;> rfl
  | setDone command k => exact absurd h.1 hbehind

/-- What holds after any steps of any requests on a working database, however they are interleaved:
if the session as it stands has metadata and shows other markers than the database lists under its
filter, then there is a request that waits to list them anew, or the one that has the session is
about to list markers or to show them. So if no request is being served, the session shows what the
database lists. -/
theorem listing_never_lost (settings : Settings Float) (db₀ : Database) (turns : List Turn) :
    let t := (ofServer (Server.new settings (.opened db₀))).run turns
    ∃ db, t.archive = .opened db ∧
      (t.current.metadata.isSome = true →
        db.listMarkers t.current.filter ≠ .ok t.current.markers →
        (∃ j ∈ t.waiting, j.Relists) ∨ ∃ c, t.active = some c ∧ c.relists = true) ∧
      (t.waiting = [] → t.active = none → t.session.metadata.isSome = true →
        db.listMarkers t.session.filter = .ok t.session.markers) := by
  intro t
  have hminded : t.Minded settings.viewport := (minded_new settings db₀).run turns
  obtain ⟨db, hdb, hsettled⟩ := hminded.settled
  refine ⟨db, hdb, fun hsome hbehind => ?_, fun hwaiting hactive => ?_⟩
  · -- Somebody is there to bring the session up to date.
    rcases hsettled with ⟨answer, hanswer⟩ | hsettled
    · exact .inl ⟨_, hanswer, Job.relists_resync answer⟩
    · cases hactive : t.active with
      | none =>
        simp only [Settled, hactive] at hsettled
        simp only [current, hactive] at hsome hbehind
        exact absurd (hsettled hsome) hbehind
      | some c =>
        simp only [Settled, hactive] at hsettled
        simp only [current, hactive] at hsome hbehind
        exact .inr ⟨c, rfl, relists_of_settles hsettled fun hfresh => hbehind (hfresh hsome)⟩
  · -- With nobody waiting and nobody in the session, there is nobody who still has to.
    rcases hsettled with ⟨answer, hanswer⟩ | hsettled
    · rw [hwaiting] at hanswer
      cases hanswer
    · simp only [Settled, hactive] at hsettled
      exact hsettled

/-- A request for a listing has read it, then another request sets a flag, and only then the first
one shows what it has read. The session is behind, and the other request waits to list the markers
anew; when it has done so, the session is up to date. -/
theorem listing_kept_after_overtaking :
    ∃ (before after : List Turn) (behind t : Traffic),
      behind = (ofServer (Server.new Settings.standard (.opened .empty))).run before ∧
      t = (ofServer (Server.new Settings.standard (.opened .empty))).run (before ++ after) ∧
      behind.current.markers.map (·.done) = [false] ∧
      (behind.archive.listMarkers behind.current.filter).map (·.map (·.done)) = .ok [true] ∧
      (∃ j ∈ behind.waiting, j.Relists) ∧
      t.session.markers.map (·.done) = [true] ∧
      t.archive.listMarkers t.session.filter = .ok t.session.markers := by
  let chest : Json :=
    .obj [("id", .str "a"), ("kind", .str "CUBE"), ("map", .str "World_L_A"),
      ("name", .str "Chest")]
  let post (path : String) (body : Json) : Request :=
    ⟨.post, path, none, some "application/json", body.render, .v4 127 0 0 1, none⟩
  let start : List Turn :=
    [.arrive 0 (post "/api/markers/import" (MarkerImport.encode ⟨[chest], none⟩)), .proceed 0,
      .proceed 0, .goOn 0, .arrive 1 (post "/api/map/select" (.obj [("map", .str "World_L_A")])),
      .proceed 0, .goOn 1, .goOn 1, .goOn 1]
  let overtaking : List Turn :=
    [.arrive 2 (post "/api/map/filter" (.obj [])), .proceed 0, .goOn 2,
      .arrive 3 (post "/api/markers/done" (SetDone.encode ⟨.account, none, "a", true⟩)), .proceed 0,
      .goOn 4]
  let after : List Turn := [.proceed 0, .goOn 5, .goOn 5]
  -- The two runs are named by equations, so that only the two checks below look into them.
  obtain ⟨behind, hbefore⟩ : ∃ behind, behind =
    (ofServer (Server.new Settings.standard (.opened .empty))).run (start ++ overtaking) := ⟨_, rfl⟩
  obtain ⟨t, hall⟩ : ∃ t, t = (ofServer (Server.new Settings.standard (.opened .empty))).run
    ((start ++ overtaking) ++ after) := ⟨_, rfl⟩
  have hstale : behind.active.isNone = true ∧ behind.current.metadata.isSome = true ∧
      behind.current.markers.map (·.done) = [false] ∧
      (behind.archive.listMarkers behind.current.filter).map (·.map (·.done)) = .ok [true] := by
    rw [hbefore]
    decide +kernel
  have hserved : t.waiting.isEmpty = true ∧ t.active.isNone = true ∧
      t.session.metadata.isSome = true ∧ t.session.markers.map (·.done) = [true] := by
    rw [hall]
    decide +kernel
  obtain ⟨hnobody, hsome, hshown, hlisted⟩ := hstale
  obtain ⟨hwaiting, hactive, hsome', hshown'⟩ := hserved
  rw [Option.isNone_iff_eq_none] at hnobody hactive
  rw [List.isEmpty_iff] at hwaiting
  have hbehind := listing_never_lost Settings.standard .empty (start ++ overtaking)
  have hquiet := listing_never_lost Settings.standard .empty ((start ++ overtaking) ++ after)
  rw [← hbefore] at hbehind
  rw [← hall] at hquiet
  obtain ⟨db, hdb, hbehind, -⟩ := hbehind
  obtain ⟨db', hdb', -, hquiet⟩ := hquiet
  refine ⟨start ++ overtaking, after, behind, t, hbefore, hall, hshown, hlisted, ?_, hshown', ?_⟩
  · -- The markers shown are not those listed, since one of them has its flag.
    have hdiffers : db.listMarkers behind.current.filter ≠ .ok behind.current.markers := by
      intro hsame
      rw [hdb, Archive.listMarkers_opened, hsame, Except.map, hshown] at hlisted
      cases hlisted
    rcases hbehind hsome hdiffers with howing | ⟨c, hc, -⟩
    · exact howing
    · rw [hc] at hnobody
      cases hnobody
  · rw [hdb', Archive.listMarkers_opened]
    exact hquiet hwaiting hactive hsome'

end Traffic

end MarkerAtlas
