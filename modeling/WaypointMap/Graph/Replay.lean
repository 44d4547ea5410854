import WaypointMap.Graph
import WaypointMap.Report

/-!
# Replaying reports

Reports are placed one after the other. The first that is refused ends the replay; what was
placed before it stays.
-/

namespace WaypointMap

namespace Graph

variable {K : Type} [Scalar K]

def place : Report K → GraphCall K Nat
  | .waypoint x y blocked origin heading =>
    placeWaypoint (.ok x) (.ok y) (.ok blocked) (.int origin) (.ok heading)
  | .object origin x y heading => placeObject (.int origin) (.ok x) (.ok y) (.ok heading)

/-- Places reports, and answers the ids of their waypoints. -/
def replay : List (Report K) → GraphCall K (List Nat)
  | [] => return []
  | report :: rest => do
    let i ← place report
    return i :: (← replay rest)

end Graph

end WaypointMap
