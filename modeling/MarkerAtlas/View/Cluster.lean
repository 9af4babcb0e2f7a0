import MarkerAtlas.View.Viewport
import MarkerAtlas.Marker.Basic
import MarkerAtlas.Text.Integer
import MarkerAtlas.Text.Blank

/-!
# Clusters

Markers that lie densely are drawn as one. The screen is cut into square cells; the markers of a
cell with two or more form a cluster, and a marker alone in its cell is drawn by itself. Cells
follow pan and zoom, since they are taken from screen positions, and appear in the order of
their first markers.
-/

namespace MarkerAtlas

variable {α : Type}

/-- The column and the row of a cell of the screen. -/
structure CellKey where
  column : Int64
  row : Int64
  deriving DecidableEq

namespace CellKey

/-- The key as text: column and row with a colon between them. -/
def render (k : CellKey) : String := String.ofList
  ((toString k.column.toInt).toList ++ ':' :: (toString k.row.toInt).toList)

/-- The key that a text writes; blanks around its two numbers are allowed. -/
def ofText? (s : String) : Option CellKey :=
  let cs := s.toList
  let column := cs.takeWhile (· ≠ ':')
  match cs.dropWhile (· ≠ ':') with
  | [] => none
  | _ :: row =>
    match Text.int64? (Text.trimChars column), Text.int64? (Text.trimChars row) with
    | some c, some r => some ⟨c, r⟩
    | _, _ => none

end CellKey

/-- What a cluster's colour says: all of its markers are done, none is, or some are. -/
inductive Tone where
  | done
  | pending
  | mixed
  deriving Repr, DecidableEq

/-- The name of a tone. -/
def Tone.name : Tone → String
  | .done => "done"
  | .pending => "pending"
  | .mixed => "mixed"

/-- Two or more markers drawn as one. -/
structure Cluster (α : Type) where
  key : CellKey
  centroid : Point α
  count : Nat
  doneCount : Nat

/-- What the cluster's colour says. -/
def Cluster.tone (c : Cluster α) : Tone :=
  if c.doneCount = c.count then .done
  else if c.doneCount = 0 then .pending
  else .mixed

/-- Markers cut into those drawn by themselves and those drawn as clusters. -/
structure Clustering (α : Type) where
  singles : List (Marker α)
  clusters : List (Cluster α)

/-- How many markers are drawn, each by itself or in a cluster. -/
def Clustering.represented (c : Clustering α) : Nat :=
  c.clusters.foldr (fun cluster n => cluster.count + n) c.singles.length

/-- The markers of a cell that were seen so far. -/
structure CellGroup (α : Type) where
  key : CellKey
  first : Marker α
  count : Nat
  doneCount : Nat
  sum : Point α

section
variable [Scalar α]

/-- The cell of a screen point. -/
def CellKey.ofScreen (cellSize : α) (p : Point α) : CellKey :=
  ⟨Int64.ofInt (Scalar.floorIndex (p.x / cellSize)),
    Int64.ofInt (Scalar.floorIndex (p.y / cellSize))⟩

namespace CellGroup

/-- The group that one marker starts. -/
def start (key : CellKey) (m : Marker α) (world : Point α) : CellGroup α :=
  ⟨key, m, 1, if m.done then 1 else 0, world⟩

/-- The group with one more marker. -/
def add (g : CellGroup α) (m : Marker α) (world : Point α) : CellGroup α :=
  { g with
    count := g.count + 1
    doneCount := g.doneCount + if m.done then 1 else 0
    sum := g.sum + world }

/-- Puts a marker into the group of its cell, or starts a group at the end. -/
def insert (key : CellKey) (m : Marker α) (world : Point α) :
    List (CellGroup α) → List (CellGroup α)
  | [] => [start key m world]
  | g :: gs => if g.key = key then g.add m world :: gs else g :: insert key m world gs

/-- The cluster of a group. -/
def cluster (g : CellGroup α) : Cluster α :=
  ⟨g.key, g.sum.scale (1 / Scalar.ofNat g.count), g.count, g.doneCount⟩

end CellGroup

/-- The markers with a position grouped by their cells, in the order of the first markers. -/
def cellGroups (v : Viewport α) (cellSize : α) (markers : List (Marker α)) : List (CellGroup α) :=
  markers.foldl
    (fun groups m =>
      match m.position with
      | none => groups
      | some world =>
        CellGroup.insert (CellKey.ofScreen cellSize (v.worldToScreen world)) m world groups)
    []

/-- Draws the markers of every cell as one. -/
def clusterMarkers (v : Viewport α) (cellSize : α) (markers : List (Marker α)) : Clustering α :=
  let groups := cellGroups v cellSize markers
  { singles := (groups.filter (·.count = 1)).map (·.first)
    clusters := (groups.filter (·.count ≠ 1)).map (·.cluster) }

/-- Do the markers lie densely enough to be clustered? -/
def ClusterSettings.shouldCluster (s : ClusterSettings α) (scale : α) (visibleCount : Nat) : Bool :=
  s.enabled && (decide (scale < s.belowScale) || decide (visibleCount > s.aboveCount))

/-- Clusters the visible markers if they lie densely, and says whether they do. -/
def ClusterSettings.derive (s : ClusterSettings α) (v : Viewport α) (visible : List (Marker α)) :
    Bool × Clustering α :=
  if s.shouldCluster v.scale visible.length then (true, clusterMarkers v s.cellSize visible)
  else (false, ⟨visible, []⟩)

end

end MarkerAtlas
