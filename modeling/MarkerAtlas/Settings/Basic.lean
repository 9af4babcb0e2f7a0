import MarkerAtlas.Scalar.Basic

/-!
# Settings

The policy of the view and of the route planner. Every setting has a default; `Settings.fault?`
says what is wrong with settings that the view could not work with.
-/

namespace MarkerAtlas

variable {α : Type}

/-- How far and how fast the view zooms. -/
structure ViewportSettings (α : Type) where
  minScale : α
  maxScale : α
  /-- Margin left around a map that is fitted to the screen, in screen pixels. -/
  fitPadding : α
  /-- Factor of one press of a zoom button. -/
  zoomStep : α
  wheelZoomIn : α
  wheelZoomOut : α
  /-- Factor by which a click on a cluster zooms. -/
  clusterZoom : α

/-- How far beyond the screen markers still count as visible, in screen pixels. -/
structure CullSettings (α : Type) where
  padding : α

/-- When and how densely lying markers are drawn as one. -/
structure ClusterSettings (α : Type) where
  enabled : Bool
  /-- Side of the cells that markers are grouped by, in screen pixels. -/
  cellSize : α
  /-- Cluster whenever the scale is below this. -/
  belowScale : α
  /-- Cluster whenever more markers than this are visible. -/
  aboveCount : Nat

/-- How large a route may be, and how long it is improved. -/
structure RouteSettings where
  maxCandidates : Nat
  passes : Nat

/-- The settings of a map view. -/
structure Settings (α : Type) where
  viewport : ViewportSettings α
  cull : CullSettings α
  cluster : ClusterSettings α
  route : RouteSettings

section
variable [Scalar α]

/-- The settings used where nothing else is asked for. -/
def ViewportSettings.standard : ViewportSettings α where
  minScale := Scalar.ofDecimal 5 2
  maxScale := Scalar.ofNat 6
  fitPadding := Scalar.ofNat 24
  zoomStep := Scalar.ofDecimal 115 2
  wheelZoomIn := Scalar.ofDecimal 108 2
  wheelZoomOut := Scalar.ofDecimal 92 2
  clusterZoom := Scalar.ofDecimal 16 1

/-- The settings used where nothing else is asked for. -/
def CullSettings.standard : CullSettings α := ⟨Scalar.ofNat 48⟩

/-- The settings used where nothing else is asked for. -/
def ClusterSettings.standard : ClusterSettings α where
  enabled := true
  cellSize := Scalar.ofNat 34
  belowScale := Scalar.ofDecimal 35 2
  aboveCount := 600

/-- The settings used where nothing else is asked for. -/
def RouteSettings.standard : RouteSettings := ⟨200, 2⟩

/-- The settings used where nothing else is asked for. -/
def Settings.standard : Settings α := ⟨.standard, .standard, .standard, .standard⟩

/-- What is wrong with settings. -/
inductive SettingsFault (α : Type) where
  | scaleBounds (low high : α)
  | zoomIn
  | wheelZoomOut
  | cellSize
  | maxCandidates

/-- The first fault of the settings, if they have one. -/
def Settings.fault? (s : Settings α) : Option (SettingsFault α) :=
  let v := s.viewport
  if ¬ (v.minScale > 0 ∧ v.minScale ≤ v.maxScale) then some (.scaleBounds v.minScale v.maxScale)
  else if v.zoomStep ≤ 1 ∨ v.wheelZoomIn ≤ 1 then some .zoomIn
  else if ¬ (v.wheelZoomOut > 0 ∧ v.wheelZoomOut < 1) then some .wheelZoomOut
  else if s.cluster.cellSize ≤ 0 then some .cellSize
  else if s.route.maxCandidates = 0 then some .maxCandidates
  else none

/-- What settings without fault keep to. Bounds and factors that are checked by a negation may be no
numbers. -/
theorem Settings.fault?_eq_none_iff (s : Settings α) : s.fault? = none ↔
    (s.viewport.minScale > 0 ∧ s.viewport.minScale ≤ s.viewport.maxScale) ∧
    ¬(s.viewport.zoomStep ≤ 1 ∨ s.viewport.wheelZoomIn ≤ 1) ∧
    (s.viewport.wheelZoomOut > 0 ∧ s.viewport.wheelZoomOut < 1) ∧
    ¬s.cluster.cellSize ≤ 0 ∧ s.route.maxCandidates ≠ 0 := by
  have hcheck {β : Type} (p : Prop) [Decidable p] (fault : β) (rest : Option β) :
      (if p then some fault else rest) = none ↔ ¬p ∧ rest = none := by
    split <;> simp_all
  simp only [fault?, hcheck, Decidable.not_not, and_true, ne_eq]

end

end MarkerAtlas
