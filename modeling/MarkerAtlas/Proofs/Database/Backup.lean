import MarkerAtlas.Proofs.Database.Permuted
import MarkerAtlas.Proofs.Database.Writes

/-!
# Backups restore the database

A database that has grown from an empty one by any writes is rebuilt from its two backups: first
the markers, then the flags. The rebuilt one holds the same rows, so that it answers the same.
-/

namespace MarkerAtlas.Database

/-! ## Backups as imports -/

/-- The markers of a backup, as they are handed over for an import. -/
def markerBackup (db : Database) (defaultSource : Option String) : MarkerImport :=
  ⟨db.exportMarkers.map Marker.encode, defaultSource⟩

/-- The flags of a backup, as they are handed over for an import. -/
def progressBackup (db : Database) : ProgressImport :=
  ⟨db.exportProgress.map ProgressRecord.encode⟩

/-- A progress backup is read back flag by flag, at any time. -/
theorem Canonical.read_progressBackup {db : Database} (h : db.Canonical) (now : Int64) :
    db.progressBackup.rows.filterMap (DoneFlag.ofRow? now) =
      db.flags.mergeSort DoneFlag.comesBefore := by
  unfold progressBackup exportProgress
  rw [List.map_map, List.filterMap_map]
  have hback : ∀ f ∈ db.flags.mergeSort DoneFlag.comesBefore,
      (DoneFlag.ofRow? now ∘ ProgressRecord.encode ∘ fun f => f.record) f = some f := by
    intro f hf
    have hf : f ∈ db.flags := List.mem_mergeSort.mp hf
    -- The marker of a flag is stored under its id, which is trimmed.
    obtain ⟨m, hm, hid⟩ := List.mem_map.mp ((hasMarker_iff db _).mp (h.stored f hf))
    have htrimmed : Text.trimmed? f.markerId = some f.markerId := by
      rw [← hid]
      exact (h.markers m hm).id
    exact DoneFlag.ofRow?_encode (h.owners f hf) htrimmed now
  exact (List.filterMap_congr hback).trans List.filterMap_some

/-! ## Restoring -/

/-- The rows that an import of markers into an empty database leaves, and its report. -/
theorem Canonical.importMarkers_markerBackup {db : Database} (h : db.Canonical)
    (defaultSource : Option String) :
    ∃ log, empty.importMarkers (db.markerBackup defaultSource) =
      (⟨db.sortedMarkers, [], log⟩, ⟨db.exportMarkers.length, 0⟩) := by
  have himportable : ∀ m ∈ db.exportMarkers, m.Importable := by
    intro m hm
    obtain ⟨n, hn, rfl⟩ := List.mem_map.mp hm
    exact (h.markers n (mem_sortedMarkers.mp hn)).importable false
  have hids : (db.exportMarkers.map (·.id)).Nodup := by
    rw [exportMarkers, List.map_map]
    exact h.nodup_sortedMarkers
  have hback : db.exportMarkers.map Marker.stored = db.sortedMarkers := by
    rw [exportMarkers, List.map_map]
    exact (List.map_congr_left fun m hm =>
      (h.markers m (mem_sortedMarkers.mp hm)).stored_toMarker false).trans (List.map_id _)
  rw [← hback]
  exact importMarkers_of_importable himportable hids defaultSource

/-- The flags that an import of progress adds to markers without flags, and its report. -/
theorem Canonical.importProgress_progressBackup {db : Database} (h : db.Canonical) (db' : Database)
    (hmarkers : db'.markers = db.sortedMarkers) (hflags : db'.flags = []) (now : Int64) :
    ∃ log, db'.importProgress now db.progressBackup =
      (⟨db.sortedMarkers, db.flags.mergeSort DoneFlag.comesBefore, log⟩,
        ⟨db.exportProgress.length, 0⟩) := by
  have hperm : (db.flags.mergeSort DoneFlag.comesBefore).Perm db.flags := List.mergeSort_perm _ _
  have hkeys : ((db'.flags ++ db.flags.mergeSort DoneFlag.comesBefore).map DoneFlag.key).Nodup := by
    rw [hflags, List.nil_append]
    exact (hperm.map DoneFlag.key).nodup_iff.mpr h.keys
  have hstored : ∀ f ∈ db.flags.mergeSort DoneFlag.comesBefore,
      db'.hasMarker f.markerId = true := by
    intro f hf
    obtain ⟨m, hm, hid⟩ := List.mem_map.mp
      ((hasMarker_iff db _).mp (h.stored f (hperm.mem_iff.mp hf)))
    rw [hasMarker_iff, hmarkers, ← hid]
    exact List.mem_map.mpr ⟨m, mem_sortedMarkers.mpr hm, rfl⟩
  have hfold := foldl_putFlag_of_new _ db' ⟨0, 0⟩ hstored hkeys
  have hlength : db.exportProgress.length = (db.flags.mergeSort DoneFlag.comesBefore).length :=
    List.length_map _
  obtain ⟨log, hlog⟩ := db'.importProgress_eq_foldl now db.progressBackup
  refine ⟨log, ?_⟩
  rw [hlog, h.read_progressBackup, hfold, hlength]
  simp [hmarkers, hflags]

theorem plain_of_canonical {m : StoredMarker} (h : m.Canonical) : m.Plain := by
  have hplain : ∀ x : Option Float, StoredMarker.storedCoordinate x = x →
      Double.Plain (x.getD 0) := by
    intro x hx
    cases x with
    | none => exact Double.plain_zero
    | some x => exact Option.some.inj hx
  exact ⟨hplain m.x h.x, hplain m.y h.y⟩

/-- A rebuilt database has the rows of the one that was backed up. -/
theorem Canonical.sameRows {db : Database} (h : db.Canonical) (log : List LogEntry) :
    SameRows db ⟨db.sortedMarkers, db.flags.mergeSort DoneFlag.comesBefore, log⟩ where
  markers := db.sortedMarkers_perm.symm
  flags := (List.mergeSort_perm db.flags DoneFlag.comesBefore).symm
  ids := h.ids
  keys := h.keys
  plain := fun m hm => plain_of_canonical (h.markers m hm)

/-- A database that has grown from an empty one by any writes is rebuilt from its backups, with
any default source and at any time: every row counts as inserted, and exports, maps and listings
under every filter are those of the original. -/
theorem Reachable.restored_from_backup {db : Database} (hdb : Reachable db)
    (defaultSource : Option String) (now : Int64) :
    let markersIn :=
      Database.empty.importMarkers ⟨db.exportMarkers.map Marker.encode, defaultSource⟩
    let progressIn := markersIn.1.importProgress now ⟨db.exportProgress.map ProgressRecord.encode⟩
    markersIn.2 = ⟨db.exportMarkers.length, 0⟩ ∧
      progressIn.2 = ⟨db.exportProgress.length, 0⟩ ∧
      progressIn.1.exportMarkers = db.exportMarkers ∧
      progressIn.1.exportProgress = db.exportProgress ∧
      progressIn.1.listMaps = db.listMaps ∧
      ∀ f : MarkerFilter, progressIn.1.listMarkers f = db.listMarkers f := by
  intro markersIn progressIn
  have h := hdb.canonical
  -- First the markers: flags are only put on markers that are there.
  obtain ⟨log, hmarkers⟩ := h.importMarkers_markerBackup defaultSource
  have hmarkersIn : markersIn = (⟨db.sortedMarkers, [], log⟩, ⟨db.exportMarkers.length, 0⟩) :=
    hmarkers
  obtain ⟨log', hprogress⟩ := h.importProgress_progressBackup markersIn.1
    (by rw [hmarkersIn]) (by rw [hmarkersIn]) now
  have hprogressIn : progressIn =
      (⟨db.sortedMarkers, db.flags.mergeSort DoneFlag.comesBefore, log'⟩,
        ⟨db.exportProgress.length, 0⟩) := hprogress
  -- The rows are those of the original in another order, which no answer depends on.
  have hsame := h.sameRows log'
  refine ⟨by rw [hmarkersIn], by rw [hprogressIn], ?_⟩
  rw [hprogressIn]
  exact ⟨hsame.exportMarkers_eq.symm, hsame.exportProgress_eq.symm, hsame.listMaps_eq.symm,
    fun f => (hsame.listMarkers_eq f).symm⟩

/-- A marker with blanks around its id on the negative zero, and the flag of a character with
blanks around its id. -/
theorem restored_from_padded_rows :
    ∃ db, Reachable db ∧ db.exportMarkers.length = 1 ∧ db.exportProgress.length = 1 ∧
      (empty.importMarkers ⟨db.exportMarkers.map Marker.encode, none⟩).2 = ⟨1, 0⟩ := by
  let chest : Json :=
    .obj [("id", .str " a "), ("kind", .str "CUBE"), ("map", .str "Poeta"), ("name", .str "Chest "),
      ("x", Json.float (-0.0))]
  let flag : Json :=
    .obj [("scope", .str "CHARACTER"), ("characterId", .str " Hero"), ("markerId", .str "a ")]
  let db := ((empty.importMarkers ⟨[chest], some "file"⟩).1.importProgress 5 ⟨[flag]⟩).1
  have hdb : Reachable db := .importProgress 5 _ (.importMarkers _ .empty)
  have hmarkers : db.exportMarkers.length = 1 := by decide +kernel
  have hprogress : db.exportProgress.length = 1 := by decide +kernel
  have hrestored := (hdb.restored_from_backup none 6).1
  rw [hmarkers] at hrestored
  exact ⟨db, hdb, hmarkers, hprogress, hrestored⟩

end MarkerAtlas.Database
