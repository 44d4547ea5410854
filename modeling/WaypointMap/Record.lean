import WaypointMap.Waypoint

/-!
# Waypoint records

Waypoints as clients keep them, outside of any map: the id is any integer, and the links are
a list of any length. Only the first four links count as north, east, south and west.
-/

namespace WaypointMap

/-- A waypoint outside of a map. -/
structure Record (K : Type) where
  id : Int
  x : K
  y : K
  links : List Int := List.replicate 4 Link.unknownCode
  hasObject : Bool := false

namespace Record

variable {K : Type}

/-- The links by heading, if there are at least four. -/
def compass (r : Record K) : Checked (Compass Int) :=
  match r.links with
  | n :: e :: s :: w :: _ => .ok ⟨n, e, s, w⟩
  | _ => .error .noSuchIndex

def row (r : Record K) : Checked (Row K) := do
  let links ← r.compass
  return { id := r.id, x := r.x, y := r.y
           north := links.north, east := links.east
           south := links.south, west := links.west
           hasObject := r.hasObject }

def hasUnknownLink (r : Record K) : Bool := r.links.contains Link.unknownCode

def exits (r : Record K) : Checked (List (Heading × Int)) := do
  let links ← r.compass
  return (Heading.all.map fun h => (h, links.get h)).filter (0 ≤ ·.2)

/-- Replaces the link at a place of the list. -/
def setLink (r : Record K) (place : Nat) (link : Int) : Checked (Record K) :=
  if place < r.links.length then .ok { r with links := r.links.set place link }
  else .error .noSuchSlot

end Record

end WaypointMap
