import Mathlib
import MarkerAtlas.Proofs.View.CellKey
import MarkerAtlas.Proofs.View.Cluster
import MarkerAtlas.Proofs.View.Viewport
import MarkerAtlas.Scalar.Double
import MarkerAtlas.Session.Frame

/-!
# What a frame draws

The markers in view are drawn one by one, or cell by cell where they lie densely. Either way
every one of them is drawn once: by itself, or as one of a cluster that counts it.
-/

namespace MarkerAtlas

variable {α : Type} [Scalar α]

namespace Session

/-! ## Which markers are drawn, and how -/

/-- The marker lies in the padded part of the world that the screen shows. A screen without size
shows the whole world. -/
def InView (s : Session α) (m : Marker α) : Prop :=
  ∃ p, m.position = some p ∧ (s.viewport.size.isEmpty = true ∨
    (s.viewport.worldBounds s.settings.cull.padding).Encloses p)

/-- These markers are to be drawn as clusters. -/
def Dense (s : Session α) (shown : List (Marker α)) : Prop :=
  s.settings.cluster.enabled = true ∧
    (s.viewport.scale < s.settings.cluster.belowScale ∨
      s.settings.cluster.aboveCount < shown.length)

/-- The dot draws the marker. -/
structure Draws (s : Session α) (m : Marker α) (d : MarkerDot α) : Prop where
  id : d.id = m.id
  position : m.position = some d.position
  done : d.done = m.done
  selected : d.selected = true ↔ s.selected = some m.id

/-- The markers with which a cluster is drawn. -/
def membersOf (s : Session α) (shown : List (Marker α)) (c : Cluster α) : List (Marker α) :=
  s.viewport.inCell s.settings.cluster.cellSize shown c.key

/-- The frame draws every one of the markers by itself. -/
structure DrawnSingly (s : Session α) (shown : List (Marker α)) : Prop where
  clustered : s.frame.clustered = false
  singles : List.Forall₂ s.Draws shown s.frame.singles
  clusters : s.frame.clusters = []

/-- The frame draws the markers by the cells they are in: those that are alone in one by
themselves, and the cells with two or more as clusters. -/
structure DrawnByCells (s : Session α) (shown : List (Marker α)) : Prop where
  clustered : s.frame.clustered = true
  singles : List.Forall₂ s.Draws
    (shown.filter (s.viewport.isAlone s.settings.cluster.cellSize shown)) s.frame.singles
  keys : s.frame.clusters.map (·.key) =
    (s.viewport.cells s.settings.cluster.cellSize shown).filter fun k =>
      2 ≤ (s.viewport.inCell s.settings.cluster.cellSize shown k).length
  summaries : ∀ c ∈ s.frame.clusters, c.Summarizes (s.membersOf shown c)

/-- The frame draws each of the markers once, and counts what it draws. -/
structure DrawnOnce (s : Session α) (shown : List (Marker α)) : Prop where
  once : ∃ alone, List.Forall₂ s.Draws alone s.frame.singles ∧
    (alone ++ s.frame.clusters.flatMap (s.membersOf shown)).Perm shown
  count : s.frame.visibleCount = shown.length
  doneCount : s.frame.visibleDone = shown.countP (·.done)
  countDrawn : s.frame.visibleCount =
    s.frame.singles.length + (s.frame.clusters.map (·.count)).sum
  doneDrawn : s.frame.visibleDone =
    s.frame.singles.countP (·.done) + (s.frame.clusters.map (·.doneCount)).sum
  keys : (s.frame.clusters.map (·.key.render)).Nodup
  count_le : s.frame.visibleCount ≤ s.frame.totalCount
  done_le : s.frame.visibleDone ≤ s.frame.totalDone

/-! ## Culling -/

theorem shows_iff (s : Session α) (m : Marker α) :
    s.viewport.shows s.settings.cull.padding m = true ↔ s.InView m := by
  unfold Viewport.shows InView
  cases m.position with
  | none => simp
  | some p => simp [Box.contains_iff]

instance (s : Session α) : DecidablePred s.InView := fun m => decidable_of_iff _ (s.shows_iff m)

theorem visible_eq (s : Session α) : s.visible = s.markers.filter s.InView := by
  refine List.filter_congr fun m _ => ?_
  rw [Bool.eq_iff_iff, decide_eq_true_iff, shows_iff]

theorem InView.isPlaced {s : Session α} {m : Marker α} (h : s.InView m) : m.isPlaced = true := by
  obtain ⟨p, hp, -⟩ := h
  rw [Marker.isPlaced, hp, Option.isSome_some]

/-- Only a marker with a position is visible. -/
theorem isPlaced_of_mem_visible {s : Session α} {m : Marker α} (hm : m ∈ s.visible) :
    m.isPlaced = true := by
  rw [visible_eq, List.mem_filter] at hm
  exact (of_decide_eq_true hm.2).isPlaced

theorem filter_isPlaced_visible (s : Session α) : s.visible.filter (·.isPlaced) = s.visible :=
  List.filter_eq_self.mpr fun _ hm => isPlaced_of_mem_visible hm

theorem visible_sublist (s : Session α) :
    s.visible.Sublist (s.markers.filter (·.isPlaced)) := by
  rw [← filter_isPlaced_visible]
  exact List.filter_sublist.filter _

/-! ## Dots -/

theorem Draws.ofPlaced (s : Session α) {m : Marker α} (hm : m.isPlaced = true) :
    ∃ d, s.dot? m = some d ∧ s.Draws m d := by
  obtain ⟨p, hp⟩ := Option.isSome_iff_exists.mp hm
  refine ⟨⟨m.id, p, m.done, s.selected == some m.id⟩, by rw [dot?, hp, Option.map_some], rfl, hp,
    rfl, beq_iff_eq⟩

/-- Markers with a position all get a dot. -/
theorem forall₂_draws (s : Session α) {ms : List (Marker α)} (h : ∀ m ∈ ms, m.isPlaced = true) :
    List.Forall₂ s.Draws ms (ms.filterMap s.dot?) := by
  induction ms with
  | nil => exact .nil
  | cons m ms ih =>
    obtain ⟨d, hd, hdraws⟩ := Draws.ofPlaced s (h m List.mem_cons_self)
    rw [List.filterMap_cons_some hd]
    exact .cons hdraws (ih fun n hn => h n (List.mem_cons_of_mem m hn))

theorem countP_done_of_draws {s : Session α} {ms : List (Marker α)} {ds : List (MarkerDot α)}
    (h : List.Forall₂ s.Draws ms ds) : ds.countP (·.done) = ms.countP (·.done) := by
  induction h with
  | nil => rfl
  | cons hd _ ih => rw [List.countP_cons, List.countP_cons, ih, hd.done]

/-! ## The frame -/

theorem shouldCluster_iff (s : Session α) :
    s.settings.cluster.shouldCluster s.viewport.scale s.visible.length = true ↔
      s.Dense s.visible := by
  simp [ClusterSettings.shouldCluster, Dense]

theorem clustering_of_not_dense {s : Session α} (h : ¬ s.Dense s.visible) :
    s.clustering = (false, ⟨s.visible, []⟩) := by
  rw [clustering, ClusterSettings.derive, if_neg fun hdense => h (s.shouldCluster_iff.mp hdense)]

theorem clustering_of_dense {s : Session α} (h : s.Dense s.visible) :
    s.clustering =
      (true, clusterMarkers s.viewport s.settings.cluster.cellSize s.visible) := by
  rw [clustering, ClusterSettings.derive, if_pos (s.shouldCluster_iff.mpr h)]

/-- What the frame of a session with a map consists of. -/
theorem frame_eq {s : Session α} {m : MapMeta} (hm : s.metadata = some m) :
    s.frame = ⟨some m.name, s.clustering.1, s.clustering.2.singles.filterMap s.dot?,
      s.clustering.2.clusters, s.visible.length, s.visible.countP (·.done),
      (s.markers.filter (·.isPlaced)).length, (s.markers.filter (·.isPlaced)).countP (·.done),
      s.pageError⟩ := by
  unfold frame
  rw [hm]

section
variable {s : Session α} {m : MapMeta} (hm : s.metadata = some m)
include hm

theorem drawnSingly (h : ¬ s.Dense s.visible) : s.DrawnSingly s.visible := by
  have hframe := frame_eq hm
  rw [clustering_of_not_dense h] at hframe
  refine ⟨by rw [hframe], ?_, by rw [hframe]⟩
  rw [hframe]
  exact s.forall₂_draws fun m hm => isPlaced_of_mem_visible hm

theorem drawnByCells (h : s.Dense s.visible) : s.DrawnByCells s.visible := by
  have hframe := frame_eq hm
  rw [clustering_of_dense h] at hframe
  refine ⟨by rw [hframe], ?_, ?_, fun c hc => ?_⟩
  · rw [hframe, Viewport.singles_eq_filter]
    exact s.forall₂_draws fun m hm => isPlaced_of_mem_visible (List.mem_filter.mp hm).1
  · rw [hframe]
    exact Viewport.map_key_clusters _ _ _
  · rw [hframe] at hc
    exact Viewport.summarizes_of_mem_clusters _ _ _ hc

/-- The markers that are drawn by themselves and those of the clusters are the visible ones. -/
theorem alone_append_members_perm : ∃ alone, List.Forall₂ s.Draws alone s.frame.singles ∧
    (alone ++ s.frame.clusters.flatMap (s.membersOf s.visible)).Perm s.visible := by
  by_cases h : s.Dense s.visible
  · refine ⟨_, (drawnByCells hm h).singles, ?_⟩
    have hclusters : s.frame.clusters =
        (clusterMarkers s.viewport s.settings.cluster.cellSize s.visible).clusters := by
      rw [frame_eq hm, clustering_of_dense h]
    rw [hclusters, ← Viewport.singles_eq_filter]
    -- The cells share out what has a position, and that is all that is visible.
    conv_rhs => rw [← filter_isPlaced_visible]
    exact Viewport.singles_append_members_perm _ _ _
  · refine ⟨_, (drawnSingly hm h).singles, ?_⟩
    rw [(drawnSingly hm h).clusters, List.flatMap_nil, List.append_nil]

/-- A cluster counts its members, however many are in view. -/
theorem summarizes_of_mem_frame {c : Cluster α} (hc : c ∈ s.frame.clusters) :
    c.Summarizes (s.membersOf s.visible c) := by
  by_cases h : s.Dense s.visible
  · exact (drawnByCells hm h).summaries c hc
  · -- Where markers are drawn by themselves there is no cluster.
    rw [(drawnSingly hm h).clusters] at hc
    cases hc

theorem nodup_key_clusters : (s.frame.clusters.map (·.key)).Nodup := by
  by_cases h : s.Dense s.visible
  · rw [(drawnByCells hm h).keys]
    exact Viewport.nodup_cells.filter _
  · rw [(drawnSingly hm h).clusters]
    exact List.nodup_nil

theorem drawnOnce : s.DrawnOnce s.visible := by
  obtain ⟨alone, hdraws, hperm⟩ := alone_append_members_perm hm
  -- What clusters say of themselves is what their members are, cluster by cluster.
  have hcounts : s.frame.clusters.map (fun c => (s.membersOf s.visible c).length) =
      s.frame.clusters.map (·.count) :=
    List.map_congr_left fun c hc => (summarizes_of_mem_frame hm hc).count.symm
  have hdones : s.frame.clusters.map (fun c => (s.membersOf s.visible c).countP (·.done)) =
      s.frame.clusters.map (·.doneCount) :=
    List.map_congr_left fun c hc => (summarizes_of_mem_frame hm hc).doneCount.symm
  have hcount : s.frame.visibleCount = s.visible.length := by rw [frame_eq hm]
  have hdone : s.frame.visibleDone = s.visible.countP (·.done) := by rw [frame_eq hm]
  refine ⟨⟨alone, hdraws, hperm⟩, hcount, hdone, ?_, ?_, ?_, ?_, ?_⟩
  · rw [hcount, ← hperm.length_eq, List.length_append, List.length_flatMap, hcounts,
      hdraws.length_eq]
  · rw [hdone, ← hperm.countP_eq, List.countP_append, List.countP_flatMap,
      countP_done_of_draws hdraws]
    exact congrArg _ (congrArg _ hdones)
  · -- Cells that differ are written differently.
    have hkeys := (nodup_key_clusters hm).map CellKey.render_injective
    rwa [List.map_map] at hkeys
  · rw [hcount, frame_eq hm]
    exact s.visible_sublist.length_le
  · rw [hdone, frame_eq hm]
    exact s.visible_sublist.countP_le

end

/-- The frame of a session with a map draws the markers in view, each of them once: one by one,
in their order, unless they lie densely, and else by the cells they are in. -/
theorem frame_conserves (s : Session α) {m : MapMeta} (hm : s.metadata = some m) :
    (¬ s.Dense (s.markers.filter s.InView) → s.DrawnSingly (s.markers.filter s.InView)) ∧
      (s.Dense (s.markers.filter s.InView) → s.DrawnByCells (s.markers.filter s.InView)) ∧
      s.DrawnOnce (s.markers.filter s.InView) := by
  rw [← visible_eq]
  exact ⟨drawnSingly hm, drawnByCells hm, drawnOnce hm⟩

/-- Two chests that lie at one point are drawn as one cluster. -/
theorem frame_conserves_pair :
    ∃ s : Session Float, s.Dense (s.markers.filter s.InView) ∧
      s.DrawnByCells (s.markers.filter s.InView) ∧ s.DrawnOnce (s.markers.filter s.InView) ∧
      s.frame.clusters.map (fun c => (c.count, c.doneCount)) = [(2, 1)] ∧ s.frame.singles = [] := by
  let chest (id : String) (done : Bool) : Marker Float :=
    ⟨id, .cube, none, "Poeta", none, "Chest", none, some 1, some 2, none, done⟩
  let crowded : ClusterSettings Float := { ClusterSettings.standard with aboveCount := 1 }
  let s : Session Float :=
    { new { Settings.standard with cluster := crowded } with
      map := some "Poeta"
      metadata := some (MapMeta.ofTiles "Poeta" 0 1024 1024 1 1)
      markers := [chest "a" true, chest "b" false] }
  have hconserves := s.frame_conserves rfl
  have hdense : s.Dense (s.markers.filter s.InView) := ⟨rfl, .inr (by decide +kernel)⟩
  have hvisible : s.visible = s.markers := List.filter_eq_self.mpr (by decide +kernel)
  have hclustering : s.clustering = (true, clusterMarkers s.viewport s.settings.cluster.cellSize
      [chest "a" true, chest "b" false]) := by
    rw [clustering_of_dense (by rwa [visible_eq]), hvisible]
  have hdrawn := Viewport.clusterMarkers_pair s.viewport s.settings.cluster.cellSize
    (show (chest "a" true).position = some ⟨1, 2⟩ from rfl)
    (show (chest "b" false).position = some ⟨1, 2⟩ from rfl)
  refine ⟨s, hdense, hconserves.2.1 hdense, hconserves.2.2, ?_, ?_⟩
  · rw [frame_eq rfl, hclustering]
    exact hdrawn.2
  · rw [frame_eq rfl, hclustering, hdrawn.1]
    rfl

end Session

end MarkerAtlas
