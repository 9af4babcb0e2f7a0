import MarkerAtlas.Database.Archive
import MarkerAtlas.Proofs.Database.Condition
import MarkerAtlas.Proofs.Session.Listing

/-!
# A session and its database

A session is coherent with a database if it shows just what the database lists under its filter.
Talking to a database that answers keeps this, and never ends with a failure of the store: the
filter names an owner, and only listed markers are written to.
-/

namespace MarkerAtlas

/-! ## Dialogues with an open database -/

theorem Dialogue.run_map {σ α β γ : Type} (store : Store σ α) (d : Dialogue α β) (f : β → γ)
    (s : σ) : (d.map f).run store s = ((d.run store s).1, f (d.run store s).2) := by
  rw [Dialogue.map, run_andThen]
  rfl

/-- A filter is listed if it names an owner. -/
theorem Database.exists_listMarkers {f : MarkerFilter}
    (hf : (Owner.of? f.scope f.characterId).isSome = true) (db : Database) :
    ∃ ms, db.listMarkers f = .ok ms := by
  obtain ⟨owner, howner⟩ := Option.isSome_iff_exists.mp hf
  exact ⟨db.listFor owner f, by rw [listMarkers, howner]⟩

theorem Archive.listMarkers_opened (db : Database) (f : MarkerFilter) :
    (opened db).listMarkers f = db.listMarkers f := by
  unfold Archive.listMarkers Database.listMarkers
  cases howner : Owner.of? f.scope f.characterId with
  | none => rfl
  | some owner => rfl

theorem Archive.setDone_opened (db : Database) (now : Int64) (c : SetDone) :
    Archive.setDone now (.opened db) c = (db.setDone now c).map .opened := by
  unfold Archive.setDone
  cases howner : Owner.of? c.scope c.characterId with
  | none => simp [Database.setDone, howner, Except.map]
  | some owner => rfl

theorem Archive.setDone_of_hasMarker {c : SetDone} {db : Database}
    (howned : (Owner.of? c.scope c.characterId).isSome = true)
    (hknown : db.hasMarker c.markerId = true) (now : Int64) :
    ∃ db', Archive.setDone now (.opened db) c = .ok (.opened db') := by
  obtain ⟨owner, howner⟩ := Option.isSome_iff_exists.mp howned
  by_cases hsame : db.isDone owner c.markerId = c.done
  · exact ⟨db, by simp [Archive.setDone, Database.setDone, howner, hknown, hsame, Except.map]⟩
  · exact ⟨_, by simp [Archive.setDone, Database.setDone, howner, hknown, hsame, Except.map]; rfl⟩

theorem Archive.setDone_of_not_hasMarker {c : SetDone} {db : Database}
    (howned : (Owner.of? c.scope c.characterId).isSome = true)
    (hunknown : db.hasMarker c.markerId = false) (now : Int64) :
    Archive.setDone now (.opened db) c = .error (.unknownMarker c.markerId) := by
  obtain ⟨owner, howner⟩ := Option.isSome_iff_exists.mp howned
  simp [Archive.setDone, Database.setDone, howner, hunknown, Except.map]

/-- Every marker that is listed is stored. -/
theorem Database.hasMarker_of_listed {db : Database} {f : MarkerFilter} {ms : List (Marker Float)}
    (h : db.listMarkers f = .ok ms) {m : Marker Float} (hm : m ∈ ms) :
    db.hasMarker m.id = true := by
  unfold listMarkers at h
  split at h
  · cases h
  · cases h
    obtain ⟨row, hsorted, -, -, -, rfl⟩ := mem_listFor_iff.mp hm
    have hstored : row ∈ db.markers := List.mem_mergeSort.mp hsorted
    exact List.any_eq_true.mpr ⟨row, hstored, by simp [StoredMarker.toMarker]⟩

namespace Session

/-! ## Coherence -/

/-- The session can list its markers, and shows none as long as it has no map. -/
structure Listable (bounds : ViewportSettings Float) (t : Session Float) : Prop where
  owned : (Owner.of? t.filter.scope t.filter.characterId).isSome = true
  unmapped : t.map = none → t.metadata = none
  blank : t.metadata = none → t.markers = []
  bounds : t.viewport.settings = bounds

/-- The session shows what the database lists. -/
structure Coherent (bounds : ViewportSettings Float) (db : Database) (t : Session Float) : Prop
    extends t.Listable bounds where
  listed : t.metadata.isSome = true →
    db.listMarkers t.filter = .ok t.markers ∧ t.pageError = none

variable {bounds : ViewportSettings Float} {db : Database} {t t' : Session Float}

theorem coherent_new (settings : Settings Float) (db : Database) :
    (new settings).Coherent settings.viewport db where
  owned := rfl
  unmapped := fun _ => rfl
  blank := fun _ => rfl
  bounds := rfl
  listed := fun h => by cases h

/-- A session without metadata is coherent with any database. -/
theorem Listable.coherent (h : t.Listable bounds) (hnone : t.metadata = none) :
    t.Coherent bounds db :=
  { h with
    listed := fun hsome => by
      rw [hnone] at hsome
      cases hsome }

/-! ### What stays listable -/

theorem Listable.of_sameListing (h : t.Listable bounds) (hsame : t.SameListing t') :
    t'.Listable bounds where
  owned := by
    rw [hsame.filter]
    exact h.owned
  unmapped := by
    rw [hsame.map, hsame.metadata]
    exact h.unmapped
  blank := by
    rw [hsame.metadata, hsame.markers]
    exact h.blank
  bounds := by
    rw [hsame.bounds]
    exact h.bounds

/-- A message makes no difference. -/
theorem Listable.withPageError (h : t.Listable bounds) (message : Option String) :
    ({ t with pageError := message } : Session Float).Listable bounds :=
  ⟨h.owned, h.unmapped, h.blank, h.bounds⟩

/-- Of the map before, only the owner of the filter is kept. -/
theorem Listable.cleared (h : t.Listable bounds) (map : String) :
    (t.cleared map).Listable bounds :=
  ⟨h.owned, (fun hnone => by cases hnone), fun _ => rfl, h.bounds⟩

theorem Listable.entered (h : t.Listable bounds) (map : String) (m : MapMeta) :
    ({ t.cleared map with metadata := some m } : Session Float).Listable bounds :=
  ⟨h.owned, (fun hnone => by cases hnone), (fun hnone => by cases hnone), h.bounds⟩

theorem Listable.refiltered (h : t.Listable bounds) {f : MarkerFilter}
    (hf : (Owner.of? f.scope f.characterId).isSome = true) : (t.refiltered f).Listable bounds :=
  ⟨hf, h.unmapped, h.blank, h.bounds⟩

theorem Listable.relist (h : t.Listable bounds) (hsome : t.metadata.isSome = true)
    (ms : List (Marker Float)) : (t.relisted ms).Listable bounds where
  owned := h.owned
  unmapped := h.unmapped
  blank := fun hnone => by
    have hnone : t.metadata = none := hnone
    rw [hnone] at hsome
    cases hsome
  bounds := h.bounds

/-! ### What stays coherent -/

/-- What keeps the listing keeps coherence. -/
theorem Coherent.of_sameListing (h : t.Coherent bounds db) (hsame : t.SameListing t') :
    t'.Coherent bounds db :=
  { h.toListable.of_sameListing hsame with
    listed := by
      rw [hsame.metadata, hsame.filter, hsame.markers, hsame.pageError]
      exact h.listed }

theorem Listable.relisted (h : t.Listable bounds) {m : MapMeta} (hm : t.metadata = some m)
    {ms : List (Marker Float)} (hms : db.listMarkers t.filter = .ok ms) :
    (t.relisted ms).Coherent bounds db :=
  { h.relist (by rw [hm]; rfl) ms with
    listed := fun _ => ⟨hms, rfl⟩ }

/-- A session that lists a marker has metadata, since it lists nothing without. -/
theorem Listable.metadata_isSome_of_marker (h : t.Listable bounds) {id : String}
    {m : Marker Float} (hmarker : t.marker id = .ok m) : t.metadata.isSome = true := by
  have hmem : m ∈ t.markers := List.mem_of_find?_eq_some (marker_ok hmarker)
  cases hnone : t.metadata with
  | none =>
    rw [h.blank hnone] at hmem
    cases hmem
  | some _ => rfl

/-! ## What talking to an open database comes to -/

/-- The session is coherent afterwards, and whatever it was refused, the database did answer. -/
structure Settled (bounds : ViewportSettings Float) {β : Type}
    (out : Archive × After Float β) : Prop where
  coherent : ∃ db, out.1 = .opened db ∧ out.2.1.Coherent bounds db
  answered : ∀ why, out.2.2 ≠ .error (.store why)

/-- The session and the database stay as they are. -/
theorem Coherent.settled {β : Type} (h : t.Coherent bounds db) {result : Except SessionError β}
    (hresult : ∀ why, result ≠ .error (.store why)) :
    Settled bounds (Archive.opened db, t, result) := ⟨⟨db, rfl, h⟩, hresult⟩

/-- A refresh shows what the database lists. -/
theorem refresh_run_of_listed (hsome : t.metadata.isSome = true) {ms : List (Marker Float)}
    (hms : db.listMarkers t.filter = .ok ms) (now : Int64) :
    t.refresh.run (Archive.store now) (.opened db) = (.opened db, t.relisted ms, .ok ()) := by
  obtain ⟨m, hm⟩ := Option.isSome_iff_exists.mp hsome
  have hanswer : (Archive.store now).markers (.opened db) t.filter = .ok ms := by
    show (Archive.opened db).listMarkers t.filter = .ok ms
    rw [Archive.listMarkers_opened, hms]
  simp only [refresh, requireMap, hm, Dialogue.run, hanswer]

theorem refresh_run (h : t.Listable bounds) {m : MapMeta} (hm : t.metadata = some m)
    (now : Int64) (db : Database) :
    ∃ ms, db.listMarkers t.filter = .ok ms ∧
      t.refresh.run (Archive.store now) (.opened db) = (.opened db, t.relisted ms, .ok ()) := by
  obtain ⟨ms, hms⟩ := db.exists_listMarkers h.owned
  have hsome : t.metadata.isSome = true := by rw [hm]; rfl
  exact ⟨ms, hms, refresh_run_of_listed hsome hms now⟩

theorem Listable.refresh (h : t.Listable bounds) (now : Int64) (db : Database) :
    Settled bounds (t.refresh.run (Archive.store now) (.opened db)) := by
  -- Without metadata a refresh is refused; with them the listing succeeds, since the owner is
  -- named.
  cases hm : t.metadata with
  | none =>
    have hrun : t.refresh.run (Archive.store now) (.opened db) =
        (.opened db, t, .error t.lacksMap) := by
      simp only [Session.refresh, requireMap, hm, Dialogue.run]
    rw [hrun]
    exact (h.coherent hm).settled fun why hwhy => lacksMap_ne_store (Except.error.inj hwhy)
  | some m =>
    obtain ⟨ms, hms, hrun⟩ := refresh_run h hm now db
    rw [hrun]
    exact (h.relisted hm hms).settled fun why => by simp

theorem Coherent.setFilter (h : t.Coherent bounds db) {f : MarkerFilter}
    (hf : (Owner.of? f.scope f.characterId).isSome = true) (now : Int64) :
    Settled bounds ((t.setFilter f).run (Archive.store now) (.opened db)) := by
  have hlistable : (t.refiltered f).Listable bounds := h.toListable.refiltered hf
  -- Without a map there is nothing to list under the new filter.
  cases hmap : t.map with
  | none =>
    have hrun : (t.setFilter f).run (Archive.store now) (.opened db) =
        (.opened db, t.refiltered f, .ok ()) := by
      simp only [Session.setFilter, refiltered, hmap, Dialogue.run]
    rw [hrun]
    exact (hlistable.coherent (h.unmapped hmap)).settled fun why => by simp
  | some map =>
    have hdialogue : t.setFilter f = (t.refiltered f).refresh := by
      simp only [Session.setFilter, refiltered, hmap]
    rw [hdialogue]
    exact hlistable.refresh now db

theorem Coherent.selectMap (h : t.Coherent bounds db) (map : String) (now : Int64) :
    Settled bounds ((t.selectMap map).run (Archive.store now) (.opened db)) := by
  -- Whatever was shown before is forgotten first.
  have hcleared : (t.cleared map).Listable bounds := h.toListable.cleared map
  have hmaps : (Archive.store now).maps (.opened db) = .ok db.listMaps := rfl
  cases hfind : db.listMaps.find? (·.name == map) with
  | none =>
    have hrun : (t.selectMap map).run (Archive.store now) (.opened db) =
        (.opened db, { t.cleared map with pageError := some (SessionError.noMapMeta map).message },
          .error (.noMapMeta map)) := by
      simp only [Session.selectMap, Dialogue.run, hmaps, hfind]
    rw [hrun]
    exact ((hcleared.withPageError _).coherent rfl).settled fun why => by simp
  | some m =>
    have hentered := h.toListable.entered map m
    obtain ⟨ms, hms, hrefresh⟩ := refresh_run hentered rfl now db
    have hrun : (t.selectMap map).run (Archive.store now) (.opened db) =
        (.opened db, (({ t.cleared map with metadata := some m } : Session Float).relisted
          ms).fittedOrDue m, .ok ()) := by
      simp only [Session.selectMap, Dialogue.run, hmaps, hfind, Dialogue.run_map, hrefresh]
    rw [hrun]
    refine Coherent.settled ?_ fun why => by simp
    exact (hentered.relisted rfl hms).of_sameListing (sameListing_fittedOrDue _ m)

/-- Only a marker that is listed is written to, so that the database knows it. -/
theorem Coherent.setDone (h : t.Coherent bounds db) (id : String) (done : Bool) (now : Int64) :
    Settled bounds ((t.setDone id done).run (Archive.store now) (.opened db)) := by
  cases hmarker : t.marker id with
  | error e =>
    have hrun : (t.setDone id done).run (Archive.store now) (.opened db) =
        (.opened db, t, .error e) := by
      simp only [Session.setDone, hmarker, Dialogue.run]
    rw [hrun]
    obtain rfl := marker_error hmarker
    exact h.settled fun why => by simp
  | ok m =>
    have hfind := marker_ok hmarker
    have hmem : m ∈ t.markers := List.mem_of_find?_eq_some hfind
    have hid : m.id = id := by simpa using List.find?_some hfind
    have hsome : t.metadata.isSome = true := h.metadata_isSome_of_marker hmarker
    -- What it lists is what the database lists, so that the database knows the marker.
    have hknown : db.hasMarker id = true := by
      rw [← hid]
      exact Database.hasMarker_of_listed (h.listed hsome).1 hmem
    obtain ⟨db', hdb'⟩ := Archive.setDone_of_hasMarker
      (c := ⟨t.filter.scope, t.filter.characterId, id, done⟩) h.owned hknown now
    have hrun : (t.setDone id done).run (Archive.store now) (.opened db) =
        t.refresh.run (Archive.store now) (.opened db') := by
      simp only [Session.setDone, hmarker, Dialogue.run]
      rw [show (Archive.store now).setDone = Archive.setDone now from rfl, hdb']
    rw [hrun]
    exact h.toListable.refresh now db'

theorem Coherent.toggleDone (h : t.Coherent bounds db) (id : String) (now : Int64) :
    Settled bounds ((t.toggleDone id).run (Archive.store now) (.opened db)) := by
  cases hmarker : t.marker id with
  | error e =>
    have hrun : (t.toggleDone id).run (Archive.store now) (.opened db) =
        (.opened db, t, .error e) := by
      simp only [Session.toggleDone, hmarker, Dialogue.run]
    rw [hrun]
    obtain rfl := marker_error hmarker
    exact h.settled fun why => by simp
  | ok m =>
    have hset := h.setDone id (!m.done) now
    simp only [Session.toggleDone, hmarker, Dialogue.run_map]
    obtain ⟨hcoherent, hanswered⟩ := hset
    generalize (t.setDone id (!m.done)).run (Archive.store now) (.opened db) = out at *
    obtain ⟨archive, t', result⟩ := out
    -- Only the answer is another: it tells the flag.
    cases result with
    | error e => exact ⟨hcoherent, fun why hwhy => hanswered why (by rw [Except.error.inj hwhy])⟩
    | ok _ => exact ⟨hcoherent, fun why => by simp⟩

end Session

end MarkerAtlas
