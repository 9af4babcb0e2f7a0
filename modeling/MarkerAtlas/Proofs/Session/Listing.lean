import MarkerAtlas.Proofs.Route.Walk
import MarkerAtlas.Proofs.Session.Run

/-!
# What is listed stays listed

Moving the view, selecting a marker and walking along a route leave alone what the store said: the
map, the filter, the markers and the message of the last call. The settings of the viewport are
kept by every operation.
-/

namespace MarkerAtlas

variable {α : Type} [Scalar α]

namespace Session

/-! ## Sessions with the same listing -/

/-- Two sessions show the same markers of the same map, under the same filter and message. -/
structure SameListing (s s' : Session α) : Prop where
  map : s'.map = s.map
  metadata : s'.metadata = s.metadata
  filter : s'.filter = s.filter
  markers : s'.markers = s.markers
  pageError : s'.pageError = s.pageError
  bounds : s'.viewport.settings = s.viewport.settings

variable {s s' : Session α}

omit [Scalar α] in
theorem SameListing.refl (s : Session α) : s.SameListing s := ⟨rfl, rfl, rfl, rfl, rfl, rfl⟩

omit [Scalar α] in
/-- Another view of the same listing. -/
theorem sameListing_withView (s : Session α) (v : Viewport α)
    (hv : v.settings = s.viewport.settings) (drag : DragState α) (walk : Walk α) (due : Bool) :
    s.SameListing { s with viewport := v, drag := drag, walk := walk, needsFit := due } :=
  ⟨rfl, rfl, rfl, rfl, rfl, hv⟩

/-- Fitting a map, now or later, changes the view and whether it is to be fitted. -/
theorem fittedOrDue_eq (s : Session α) (m : MapMeta) :
    ∃ v due, s.fittedOrDue m = { s with viewport := v, needsFit := due } ∧
      v.settings = s.viewport.settings := by
  unfold fittedOrDue
  split
  · exact ⟨_, _, rfl, rfl⟩
  · exact ⟨_, _, rfl, rfl⟩

/-- A new size of the screen changes the view and whether it is to be fitted. -/
theorem resize_eq (s : Session α) (size : Size α) :
    ∃ v due, s.resize size = { s with viewport := v, needsFit := due } ∧
      v.settings = s.viewport.settings := by
  simp only [resize]
  split
  · split
    · exact ⟨_, _, rfl, rfl⟩
    · exact ⟨_, _, rfl, rfl⟩
  · exact ⟨_, _, rfl, rfl⟩

theorem sameListing_fittedOrDue (s : Session α) (m : MapMeta) :
    s.SameListing (s.fittedOrDue m) := by
  obtain ⟨v, due, heq, hv⟩ := s.fittedOrDue_eq m
  rw [heq]
  exact sameListing_withView s v hv s.drag s.walk due

theorem sameListing_resize (s : Session α) (size : Size α) : s.SameListing (s.resize size) := by
  obtain ⟨v, due, heq, hv⟩ := s.resize_eq size
  rw [heq]
  exact sameListing_withView s v hv s.drag s.walk due

theorem sameListing_input (s : Session α) (event : InputEvent α) :
    s.SameListing (s.input event).1 := by
  unfold input
  split
  · exact .refl s
  · exact sameListing_withView s _ (DragState.sameScreen_handle ..).settings _ s.walk s.needsFit

theorem sameListing_tick (s : Session α) : s.SameListing s.tick.1 :=
  sameListing_withView s _ (DragState.panned_tick ..).settings _ s.walk s.needsFit

theorem sameListing_goTo (s : Session α) (index : Nat) : s.SameListing (s.goTo index).1 :=
  sameListing_withView s _ (Walk.panned_goTo ..).settings s.drag _ s.needsFit

theorem sameListing_prev (s : Session α) : s.SameListing s.prev.1 :=
  sameListing_withView s _ (Walk.panned_prev ..).settings s.drag _ s.needsFit

theorem sameListing_recenter (s : Session α) : s.SameListing s.recenter.1 :=
  sameListing_withView s _ (Walk.panned_recenter ..).settings s.drag s.walk s.needsFit

theorem sameListing_selectMarker (s : Session α) (id : Option String) :
    s.SameListing (s.selectMarker id).1 := by
  refine (selectMarker_outcome id).fst (.refl s) ?_
  rintro s' ⟨rfl, -⟩
  exact ⟨rfl, rfl, rfl, rfl, rfl, rfl⟩

theorem sameListing_clickCluster (s : Session α) (key : String) :
    s.SameListing (s.clickCluster key).1 := by
  refine (clickCluster_outcome key).fst (.refl s) ?_
  rintro s' ⟨c, -, -, rfl⟩
  have hscreen := s.viewport.sameScreen_centerOnAtScale c.centroid s.settings.viewport.clusterZoom
  exact sameListing_withView s _ hscreen.settings s.drag s.walk s.needsFit

omit [Scalar α] in
theorem sameListing_showing (s : Session α) {part : MapMeta → Viewport α}
    (hpart : ∀ m, (part m).settings = s.viewport.settings) :
    s.SameListing (s.showing part).1 := by
  refine (showing_outcome part).fst (.refl s) ?_
  rintro s' ⟨m, -, rfl⟩
  exact sameListing_withView s _ (hpart m) s.drag s.walk s.needsFit

theorem sameListing_generateRoute (s : Session α) : s.SameListing s.generateRoute.1 := by
  refine generateRoute_outcome.fst (.refl s) ?_
  rintro s' ⟨m, w, v, -, hgenerate, rfl⟩
  obtain ⟨-, -, -, -, -, hpanned⟩ := Walk.generate_ok hgenerate
  exact sameListing_withView s v hpanned.settings s.drag w s.needsFit

end Session

end MarkerAtlas
