import MarkerAtlas.Route.Basic

/-!
# Turning stretches of a route around

A route is improved by turning a stretch of it around wherever that makes the route shorter by
more than `minGain`. One pass tries, for each place in the route, every stretch that begins
there; a stretch that was turned counts at once. Passes are repeated until one changes nothing,
or as often as is allowed.
-/

namespace MarkerAtlas

variable {α : Type}

/-- A place in a route: an id, and where it lies if that is known. -/
structure Stop (α : Type) where
  id : String
  position : Option (Point α)

/-- The first `k + 1` stops turned around. -/
def turnAround (k : Nat) (stops : List (Stop α)) : List (Stop α) :=
  (stops.take (k + 1)).reverse ++ stops.drop (k + 1)

section
variable [Scalar α]

/-- What a route must get shorter by for a stretch to be turned. -/
def minGain : α := Scalar.ofDecimal 1 9

/-- Does it pay to turn the first `k + 1` stops around, coming from `previous`? Only stops whose
positions are known are compared; after the last stop there is no leg to count. -/
def paysToTurn (dist : Metric α) (previous : Point α) (k : Nat) (stops : List (Stop α)) : Bool :=
  match stops[0]?.bind (·.position), stops[k]?.bind (·.position) with
  | some a, some b =>
    match stops[k + 1]? with
    | none => decide (dist previous b + 0 + minGain < dist previous a + 0)
    | some next =>
      match next.position with
      | none => false
      | some c => decide (dist previous b + dist a c + minGain < dist previous a + dist b c)
  | _, _ => false

/-- Tries the stretches that begin at the first stop and end at the stops from `k` on, `n` of
them, and says whether one was turned. -/
def improveHead (dist : Metric α) (previous : Point α) :
    (n k : Nat) → List (Stop α) → List (Stop α) × Bool
  | 0, _, stops => (stops, false)
  | n + 1, k, stops =>
    if paysToTurn dist previous k stops then
      ((improveHead dist previous n (k + 1) (turnAround k stops)).1, true)
    else improveHead dist previous n (k + 1) stops

/-- Tries the stretches that begin at each of the first `n` stops, coming from `previous`. Where
it is not known where one comes from, no stretch is tried. -/
def improveFrom (dist : Metric α) :
    (n : Nat) → Option (Point α) → List (Stop α) → List (Stop α) × Bool
  | 0, _, stops => (stops, false)
  | n + 1, previous, stops =>
    let (stops, turned) :=
      match previous with
      | none => (stops, false)
      | some p => improveHead dist p (stops.length - 1) 1 stops
    match stops with
    | [] => ([], turned)
    | stop :: rest =>
      let (rest, turnedLater) := improveFrom dist n stop.position rest
      (stop :: rest, turned || turnedLater)

/-- One pass over a route. A fixed start keeps its place. -/
def improveOnce (dist : Metric α) (start : Point α) (fixedStart : Bool) (stops : List (Stop α)) :
    List (Stop α) × Bool :=
  if fixedStart then
    match stops with
    | [] => ([], false)
    | first :: rest =>
      let (rest, turned) := improveFrom dist (rest.length - 1) first.position rest
      (first :: rest, turned)
  else improveFrom dist (stops.length - 1) (some start) stops

/-- Passes over a route until one changes nothing, at most `passes` of them. -/
def improve (dist : Metric α) (start : Point α) (fixedStart : Bool) :
    (passes : Nat) → List (Stop α) → List (Stop α)
  | 0, stops => stops
  | passes + 1, stops =>
    let (better, turned) := improveOnce dist start fixedStart stops
    if turned then improve dist start fixedStart passes better else better

/-- The order after at most `passes` passes. An order in which fewer than three stops may move
stays as it is. -/
def twoOpt (dist : Metric α) (start : Point α) (order : List String)
    (points : List (RoutePoint α)) (fixedStart : Bool) (passes : Nat) : List String :=
  if order.length < (if fixedStart then 4 else 3) then order
  else
    let stops := order.map fun id => Stop.mk id (RoutePoint.locate points id)
    (improve dist start fixedStart passes stops).map (·.id)

end

end MarkerAtlas
