import WaypointMap.Waypoint

/-!
# The table of waypoints

How a map is printed: one row for each waypoint, in the order of the ids.
-/

namespace WaypointMap

namespace Table

def header : List Text :=
  ["id", "x", "y", "north", "east", "south", "west", "object"].map Text.ofString

/-- The cells of a waypoint. Coordinates have three places. -/
def cells (w : Waypoint Float) : List Text :=
  [.ofString (toString w.id), .ofString (fixedText 3 w.x), .ofString (fixedText 3 w.y)] ++
    w.links.toList.map Link.label ++ [.ofString (if w.hasObject then "yes" else "")]

def title (count : Nat) : String := s!"Waypoints ({count})"

def rows (waypoints : List (Waypoint Float)) : List (List Text) :=
  header :: waypoints.map cells

end Table

end WaypointMap
