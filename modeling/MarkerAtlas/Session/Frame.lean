import MarkerAtlas.Session.Basic

/-!
# Frames

A frame is what is drawn of a session: the visible markers, by themselves or as clusters, and how
many markers there are and are done.
-/

namespace MarkerAtlas

variable {α : Type}

/-- A marker drawn by itself. -/
structure MarkerDot (α : Type) where
  id : String
  position : Point α
  done : Bool
  selected : Bool

/-- What is drawn. -/
structure Frame (α : Type) where
  map : Option String
  clustered : Bool
  singles : List (MarkerDot α)
  clusters : List (Cluster α)
  visibleCount : Nat
  visibleDone : Nat
  totalCount : Nat
  totalDone : Nat
  pageError : Option String

namespace Session

variable [Scalar α]

/-- The dot of a marker, if it lies somewhere. -/
def dot? (s : Session α) (m : Marker α) : Option (MarkerDot α) :=
  m.position.map fun p => ⟨m.id, p, m.done, s.selected == some m.id⟩

/-- The frame of a session. Without metadata nothing is drawn. -/
def frame (s : Session α) : Frame α :=
  match s.metadata with
  | none => ⟨s.map, false, [], [], 0, 0, 0, 0, s.pageError⟩
  | some m =>
    let placed := s.markers.filter (·.isPlaced)
    { map := some m.name
      clustered := s.clustering.1
      singles := s.clustering.2.singles.filterMap s.dot?
      clusters := s.clustering.2.clusters
      visibleCount := s.visible.length
      visibleDone := s.visible.countP (·.done)
      totalCount := placed.length
      totalDone := placed.countP (·.done)
      pageError := s.pageError }

end Session

end MarkerAtlas
