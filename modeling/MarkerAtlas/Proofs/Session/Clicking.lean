import MarkerAtlas.Proofs.Session.Frame
import MarkerAtlas.Proofs.Session.History

/-!
# Clicking on what is drawn

A frame names each of its clusters by the text of the cell it is in. A click hands such a text back,
and the clusters are worked out anew to find the one that is meant. Both ways agree: every text
that names a cluster of the frame zooms into this cluster, and every other text is refused.
-/

namespace MarkerAtlas.Session

variable {α : Type} [Scalar α]

/-! ## Zooming into a cluster -/

/-- The view has zoomed into a cluster, and nothing else has changed. A centroid that is not finite
cannot be moved to the middle. -/
structure ZoomedInto (s : Session α) (c : Cluster α) (s' : Session α) : Prop where
  viewOnly : s' = { s with viewport :=
    { s.viewport with scale := s'.viewport.scale, pan := s'.viewport.pan } }
  scale : s'.viewport.scale =
    if Scalar.isFinite s.settings.viewport.clusterZoom = true ∧
        s.settings.viewport.clusterZoom > 0 then
      s.viewport.clampScale (s.viewport.scale * s.settings.viewport.clusterZoom)
    else s.viewport.scale
  centered : c.centroid.isFinite = true →
    s'.viewport.pan = s.viewport.size.center - c.centroid.scale s'.viewport.scale

/-- The session after a click on a cluster. -/
def zoomInto (s : Session α) (c : Cluster α) : Session α :=
  { s with
    viewport := s.viewport.centerOnAtScale c.centroid s.settings.viewport.clusterZoom }

theorem zoomedInto (s : Session α) (c : Cluster α) : s.ZoomedInto c (s.zoomInto c) := by
  have hfactor : Viewport.isZoomFactor s.settings.viewport.clusterZoom = true ↔
      Scalar.isFinite s.settings.viewport.clusterZoom = true ∧
        s.settings.viewport.clusterZoom > 0 := by
    rw [Viewport.isZoomFactor, Bool.and_eq_true, decide_eq_true_iff]
  -- The view is scaled first, and the centroid is moved to the middle at the new scale.
  let v : Viewport α :=
    if Viewport.isZoomFactor s.settings.viewport.clusterZoom then
      { s.viewport with
        scale := s.viewport.clampScale (s.viewport.scale * s.settings.viewport.clusterZoom) }
    else s.viewport
  have hscreen : s.viewport.SameScreen v := by
    show s.viewport.SameScreen (if _ then _ else _)
    split
    · exact ⟨rfl, rfl⟩
    · exact .refl _
  have hpanned := v.panned_centerOn c.centroid
  refine ⟨?_, ?_, fun hfinite => ?_⟩
  · exact congrArg (fun w => { s with viewport := w })
      (s.viewport.sameScreen_centerOnAtScale c.centroid s.settings.viewport.clusterZoom).eq
  · show (v.centerOn c.centroid).scale = _
    rw [hpanned.scale]
    simp only [← hfactor]
    show (if _ then _ else _ : Viewport α).scale = _
    split <;> rfl
  · show (v.centerOn c.centroid).pan =
      s.viewport.size.center - c.centroid.scale (v.centerOn c.centroid).scale
    rw [hpanned.scale, Viewport.centerOn, if_pos hfinite, hscreen.size]

/-! ## The clusters of a frame -/

section
variable {listing : MarkerFilter → List (Marker α) → Prop} {settings : Settings α} {s : Session α}

/-- A session without metadata lists nothing. Of the operations only a change of the filter needs a
look at what it comes to: it is the one that may set something and then not list. -/
theorem ComesTo.unlisted {op : Operation α} {r : After α Unit} (hr : ComesTo listing s op r)
    (hop : ∀ f, op ≠ .setFilter f) (h : s.metadata = none → s.markers = []) :
    r.1.metadata = none → r.1.markers = [] := by
  cases hr with
  | moved v drag walk hop hlists hscreen => exact h
  | fitted hm => exact h
  | resized size =>
    have hsame := sameListing_resize s size
    rw [hsame.metadata, hsame.markers]
    exact h
  | clustered enabled => exact h
  | selected hid => exact h
  | failed why hop => exact h
  | relisted hop hlists hsome hms =>
    intro hnone
    have hnone : s.metadata = none := hnone
    rw [hnone] at hsome
    cases hsome
  | filterOnly f hmap => exact absurd rfl (hop f)
  | filterUnlisted f message e => exact absurd rfl (hop f)
  | filterListed f hmap hms => exact absurd rfl (hop f)
  | mapUnlisted map metadata message e hknown => exact fun _ => rfl
  | @mapListed map m ms hname hms =>
    rw [(sameListing_fittedOrDue _ m).metadata]
    exact fun hnone => by cases hnone

theorem Reachable.unlisted (h : Reachable listing settings s) :
    s.metadata = none → s.markers = [] := by
  induction h with
  | new => exact fun _ => rfl
  | @step s s' op hs h ih =>
    rw [perform_eq_map_attempt] at h
    obtain ⟨r, hr, rfl⟩ := (Dialogue.yields_map _ _ _).mp h
    by_cases hop : ∃ f, op = .setFilter f
    · obtain ⟨f, rfl⟩ := hop
      obtain ⟨-, rfl⟩ | ⟨-, hr⟩ := setFilter_cases hr
      · exact ih
      · obtain ⟨-, rfl⟩ | ⟨hsome, ⟨why, rfl⟩ | ⟨ms, -, rfl⟩⟩ := refresh_cases hr
        · exact ih
        · exact ih
        · intro hnone
          have hnone : s.metadata = none := hnone
          have hsome : s.metadata.isSome = true := hsome
          rw [hnone] at hsome
          cases hsome
    · exact (attempt_comesTo hr).unlisted (fun f hf => hop ⟨f, hf⟩) ih

/-- Without metadata there are no clusters to click on, just as none are drawn. -/
theorem Reachable.clusters_frame (h : Reachable listing settings s) :
    s.frame.clusters = s.clustering.2.clusters := by
  cases hm : s.metadata with
  | some m => rw [frame_eq hm]
  | none =>
    have hvisible : s.visible = [] := by
      rw [visible_eq, h.unlisted hm, List.filter_nil]
    have hframe : s.frame.clusters = [] := by
      unfold frame
      rw [hm]
    rw [hframe, clustering, hvisible, ClusterSettings.derive]
    split <;> rfl

end

theorem nodup_key_frame (s : Session α) : (s.frame.clusters.map (·.key)).Nodup := by
  cases hm : s.metadata with
  | some m => exact nodup_key_clusters hm
  | none =>
    unfold frame
    rw [hm]
    exact List.nodup_nil

/-! ## Clicks -/

section
variable {s : Session α} {key : String}

/-- A text that names a cluster finds it, since no two clusters are in the same cell. -/
theorem clickCluster_of_named (hnd : (s.clustering.2.clusters.map (·.key)).Nodup)
    {c : Cluster α} (hc : c ∈ s.clustering.2.clusters)
    (hkey : CellKey.ofText? key = some c.key) :
    s.clickCluster key = (s.zoomInto c, .ok ()) := by
  have hfind : s.clustering.2.clusters.find? (fun d => d.key = c.key) = some c := by
    -- Some cluster of the cell is found, and there is only one.
    have hsome : (s.clustering.2.clusters.find? fun d => d.key = c.key).isSome = true :=
      List.find?_isSome.mpr ⟨c, hc, decide_eq_true rfl⟩
    obtain ⟨d, hd⟩ := Option.isSome_iff_exists.mp hsome
    have hsame : d.key = c.key := by simpa using List.find?_some hd
    rw [hd, List.inj_on_of_nodup_map hnd (List.mem_of_find?_eq_some hd) hc hsame]
  simp only [clickCluster, hkey, hfind, zoomInto]

theorem clickCluster_of_unnamed
    (h : ∀ c ∈ s.clustering.2.clusters, CellKey.ofText? key ≠ some c.key) :
    s.clickCluster key = (s, .error (.unknownCluster key)) := by
  unfold clickCluster
  cases hcell : CellKey.ofText? key with
  | none => rfl
  | some cell =>
    have hnone : s.clustering.2.clusters.find? (·.key = cell) = none := by
      refine List.find?_eq_none.mpr fun c hc heq => h c hc ?_
      rw [hcell, of_decide_eq_true heq]
    simp only [hnone]

end

/-- **A click on what is drawn always works.** In every run, a click on a cluster of the frame zooms
into it and changes nothing but the view, be its key written as the frame writes it or in another
way that is read as the key. Any other text is refused, and nothing changes. -/
theorem Reachable.click_zooms {listing : MarkerFilter → List (Marker α) → Prop}
    {settings : Settings α} {s : Session α} (h : Reachable listing settings s) :
    (∀ c ∈ s.frame.clusters, ∃ s', s.attempt (.clickCluster c.key.render) = .done (s', .ok ()) ∧
      s.ZoomedInto c s') ∧
    (∀ key, ∀ c ∈ s.frame.clusters, CellKey.ofText? key = some c.key →
      ∃ s', s.attempt (.clickCluster key) = .done (s', .ok ()) ∧ s.ZoomedInto c s') ∧
    ∀ key, (∀ c ∈ s.frame.clusters, CellKey.ofText? key ≠ some c.key) →
      s.attempt (.clickCluster key) = .done (s, .error (.unknownCluster key)) := by
  have hnd := s.nodup_key_frame
  rw [h.clusters_frame] at hnd ⊢
  -- The text that the frame writes is one of those that are read as the key.
  have hnamed : ∀ key, ∀ c ∈ s.clustering.2.clusters, CellKey.ofText? key = some c.key →
      ∃ s', s.attempt (.clickCluster key) = .done (s', .ok ()) ∧ s.ZoomedInto c s' := by
    intro key c hc hkey
    refine ⟨_, ?_, s.zoomedInto c⟩
    simp only [attempt, clickCluster_of_named hnd hc hkey]
  refine ⟨fun c hc => hnamed _ c hc c.key.ofText?_render, hnamed, fun key hkey => ?_⟩
  simp only [attempt, clickCluster_of_unnamed hkey]

/-- Two chests at one point are drawn as a cluster, which a click zooms into. A text that is no key
is refused. -/
theorem click_on_pair :
    ∃ (settings : Settings Float) (s s' : Session Float) (c : Cluster Float),
      settings.fault?.isNone = true ∧ Reachable (fun _ _ => True) settings s ∧
      c ∈ s.frame.clusters ∧ c.count = 2 ∧
      s.attempt (.clickCluster c.key.render) = .done (s', .ok ()) ∧ s.ZoomedInto c s' ∧
      s.attempt (.clickCluster "here") = .done (s, .error (.unknownCluster "here")) := by
  let crowded : ClusterSettings Float := { ClusterSettings.standard with aboveCount := 1 }
  let settings : Settings Float := { Settings.standard with cluster := crowded }
  let second : Marker Float := { chest with id := "b" }
  let s : Session Float := (new settings).atPoeta [chest, second]
  have hs : Reachable (fun _ _ => True) settings s :=
    Reachable.new.atPoeta isEmpty_size_new trivial
  have hdense : s.Dense (s.markers.filter s.InView) := ⟨rfl, .inr (by decide +kernel)⟩
  have hvisible : s.visible = [chest, second] := List.filter_eq_self.mpr (by decide +kernel)
  have hclustering : s.clustering =
      (true, clusterMarkers s.viewport s.settings.cluster.cellSize [chest, second]) := by
    rw [clustering_of_dense (by rwa [visible_eq]), hvisible]
  have hcounts : s.frame.clusters.map (fun c => (c.count, c.doneCount)) = [(2, 0)] := by
    rw [frame_eq rfl, hclustering]
    exact (Viewport.clusterMarkers_pair s.viewport s.settings.cluster.cellSize rfl rfl).2
  obtain ⟨c, hc, hcount⟩ := List.mem_map.mp (hcounts ▸ List.mem_singleton_self (2, 0))
  obtain ⟨hzoom, -, hrefuse⟩ := hs.click_zooms
  obtain ⟨s', hs', hzoomed⟩ := hzoom c hc
  refine ⟨settings, s, s', c, by decide +kernel, hs, hc, congrArg Prod.fst hcount, hs', hzoomed,
    hrefuse "here" fun d hd => ?_⟩
  rw [show CellKey.ofText? "here" = none by decide]
  exact nofun

end MarkerAtlas.Session
