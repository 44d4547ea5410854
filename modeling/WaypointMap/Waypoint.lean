import WaypointMap.Compass
import WaypointMap.Link
import WaypointMap.Scalar

/-!
# Waypoints

The nodes of a map: spots with four links. A row is a waypoint as it is written out, with
integers for links.
-/

namespace WaypointMap

/-- A spot of the map. -/
structure Waypoint (K : Type) where
  id : Nat
  x : K
  y : K
  links : Compass Link
  hasObject : Bool
  deriving DecidableEq

/-- A waypoint as it is written out. -/
structure Row (K : Type) where
  id : Int
  x : K
  y : K
  north : Int
  east : Int
  south : Int
  west : Int
  hasObject : Bool

def Row.fields : List String :=
  ["id", "x", "y", "north", "east", "south", "west", "has_object"]

namespace Waypoint

variable {K : Type}

def isFrontier (w : Waypoint K) : Bool := w.links.toList.contains .unknown

/-- The linked waypoints with their headings, clockwise from north. -/
def exits (w : Waypoint K) : List (Heading × Nat) :=
  Heading.all.filterMap fun h => (w.links.get h).target?.map (h, ·)

/-- The linked waypoints, clockwise from north. -/
def neighbors (w : Waypoint K) : List Nat := w.exits.map Prod.snd

def setLink (w : Waypoint K) (h : Heading) (l : Link) : Waypoint K :=
  { w with links := w.links.set h l }

def row (w : Waypoint K) : Row K :=
  { id := w.id, x := w.x, y := w.y
    north := w.links.north.code, east := w.links.east.code
    south := w.links.south.code, west := w.links.west.code
    hasObject := w.hasObject }

/-- The squared distance of a waypoint to a point. It may leave the finite range. -/
def squaredDistanceTo [Scalar K] (w : Waypoint K) (x y : K) : K :=
  Scalar.square (w.x - x) + Scalar.square (w.y - y)

/-- The squared distance from a waypoint to another, unless a difference is finite and its
second power is not. -/
def squaredStep [Scalar K] (w v : Waypoint K) : Checked K := do
  let dx ← Scalar.checkedPower (v.x - w.x)
  let dy ← Scalar.checkedPower (v.y - w.y)
  return dx + dy

end Waypoint

end WaypointMap
