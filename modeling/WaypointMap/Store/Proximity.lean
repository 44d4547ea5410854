import WaypointMap.Store

/-!
# Proximity

The waypoint that is nearest to a point, if it is near enough. Distances are compared
squared. A distance that is not a number wins the comparison, and is then not near enough.
-/

namespace WaypointMap

namespace Store

variable {K : Type} [Scalar K]

/-- Continues a search for the least of some numbers: `best` is the least so far with its
position, `i` the position of the first of the rest. The first number that is not a number
ends the search; of equal numbers the first wins. -/
def leastFrom (best : Nat × K) (i : Nat) : List K → Nat × K
  | [] => best
  | d :: rest =>
    if Scalar.isNaN best.2 then best
    else leastFrom (if Scalar.isNaN d || d < best.2 then (i, d) else best) (i + 1) rest

/-- The least of some numbers with its position. -/
def least? : List K → Option (Nat × K)
  | [] => none
  | d :: rest => some (leastFrom (0, d) 1 rest)

/-- The squared distances of all waypoints to a point. -/
def squaredDistances (s : Store K) (x y : K) : List K :=
  s.waypoints.toList.map (·.squaredDistanceTo x y)

/-- The nearest waypoint to a point, with its squared distance. -/
def nearest? (s : Store K) (x y : K) : Option (Nat × K) := least? (s.squaredDistances x y)

/-- The position of a waypoint whose squared distance is below a limit. -/
def within (limit : K) : Option (Nat × K) → Option Nat
  | some (i, d) => if d < limit then some i else none
  | none => none

/-- The nearest waypoint to a point, if it is closer than a threshold. -/
def nearestWithin (s : Store K) (x y threshold : K) : Option Nat :=
  within (Scalar.square threshold) (s.nearest? x y)

/-- The nearest waypoint to a point, if its squared distance is below a limit. Without
waypoints, none of the arguments is looked at. -/
def nearestBelow (s : Store K) (x y limit : Checked K) : Checked (Option Nat) :=
  if s.size = 0 then .ok none
  else do
    let x ← x
    let y ← y
    let limit ← limit
    return within limit (s.nearest? x y)

def nearby (s : Store K) (x y : Checked K) (threshold : K) : Checked (Option Nat) :=
  s.nearestBelow x y (.ok (Scalar.square threshold))

end Store

end WaypointMap
