import WaypointMap.Proofs.Graph.Refusal

/-!
# Which reports are refused

What a report has been read as passes every check but one: its origin may be no waypoint of the
map. An object always needs its origin. A spot needs it only where it makes a waypoint that is
not the first.
-/

namespace WaypointMap

variable {K : Type}

namespace Store

variable [Scalar K] {s : Store K} (hs : s.WellFormed) (config : Config K) (x y : K)
  (origin : Json) (h : Heading)

include hs

end Store

namespace Report

/-- The id that a report gives for the waypoint that it was made from. -/
def origin : Report K → Int
  | waypoint _ _ _ origin _ => origin
  | object origin _ _ _ => origin

end Report

namespace Graph

variable [Scalar K] {g : Graph K}

end Graph

end WaypointMap
