import WaypointMap.Text

/-!
# Runs of code points

How the properties of code points are given: as runs, first and last included, in increasing
order.
-/

namespace WaypointMap

namespace CodePoint

/-- Whether a number lies in one of some runs, which are in increasing order. -/
def inRuns (n : Nat) : List (Nat × Nat) → Bool
  | [] => false
  | (first, last) :: runs => first ≤ n && (n ≤ last || inRuns n runs)

end CodePoint

end WaypointMap
