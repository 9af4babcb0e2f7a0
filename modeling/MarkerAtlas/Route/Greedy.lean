import MarkerAtlas.Route.Basic

/-!
# Going to the nearest point next

A first route: from where one stands, the nearest point that is left comes next, and of equally
near ones the point that was listed first. A point that the start is, is visited first.
-/

namespace MarkerAtlas

variable {α : Type} [Scalar α]

/-- The index of the least value: `best` with value `least` so far, the values from index `i` on
still to be seen. A later value has to be less to take the place. -/
def leastIndexFrom (best : Nat) (least : α) (i : Nat) : List α → Nat
  | [] => best
  | d :: ds =>
    if d < least then leastIndexFrom i d (i + 1) ds else leastIndexFrom best least (i + 1) ds

/-- The index of the first of the least values. -/
def leastIndex : List α → Nat
  | [] => 0
  | d :: ds => leastIndexFrom 0 d 1 ds

/-- The points in the order in which they are visited, at most `n` of them. -/
def visitNearest (dist : Metric α) :
    (n : Nat) → (here : Point α) → List (RoutePoint α) → List (RoutePoint α)
  | 0, _, _ => []
  | n + 1, here, left =>
    let i := leastIndex (left.map fun p => dist here p.position)
    match left[i]? with
    | none => []
    | some p => p :: visitNearest dist n p.position (left.eraseIdx i)

/-- An order of ids, and whether the start is the first of them. -/
structure Visit where
  order : List String
  fixedStart : Bool

/-- Visits every point, always the nearest one next. -/
def nearestNeighbor (dist : Metric α) (startId : Option String) (start : Point α)
    (points : List (RoutePoint α)) : Visit :=
  match startId.bind fun id => points.findIdx? (·.id == id) with
  | none => ⟨(visitNearest dist points.length start points).map (·.id), false⟩
  | some i =>
    match points[i]? with
    | none => ⟨[], false⟩
    | some p =>
      let left := points.eraseIdx i
      ⟨p.id :: (visitNearest dist left.length p.position left).map (·.id), true⟩

end MarkerAtlas
