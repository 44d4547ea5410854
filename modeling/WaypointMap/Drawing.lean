import WaypointMap.Graph
import WaypointMap.Json.Member

/-!
# Drawings

A picture of a map as a list of strokes, from the bottom to the top: the links, then the
waypoints, then a path. A link is drawn from its lower id.
-/

namespace WaypointMap

/-- What a stroke is drawn for. -/
inductive Ink where
  | link | explored | frontier | object | path
  deriving DecidableEq

def Ink.color : Ink → String
  | link => "black"
  | explored => "tab:blue"
  | frontier => "tab:orange"
  | object => "tab:red"
  | path => "tab:green"

/-- The shape of a marker: a square for objects, a circle for all else. -/
def Ink.marker : Ink → String
  | object => "s"
  | _ => "o"

/-- A stroke of a drawing. -/
inductive Stroke (K : Type) where
  | line (points : List (K × K)) (ink : Ink)
  | marker (point : K × K) (ink : Ink)
  /-- The id of a waypoint, written beside it. -/
  | label (point : K × K) (id : Nat)
  /-- Makes a unit as long upwards as sidewards. -/
  | equalAspect
  deriving DecidableEq

namespace Waypoint

variable {K : Type}

def point (w : Waypoint K) : K × K := (w.x, w.y)

def ink (w : Waypoint K) : Ink :=
  if w.hasObject then .object else if w.isFrontier then .frontier else .explored

def strokes (showIds : Bool) (w : Waypoint K) : List (Stroke K) :=
  .marker w.point w.ink :: if showIds then [.label w.point w.id] else []

end Waypoint

namespace Store

variable {K : Type}

/-- The lines from a waypoint to its neighbors of the same or a higher id. -/
def linkStrokes (s : Store K) (w : Waypoint K) : Checked (List (Stroke K)) :=
  (w.neighbors.filter (w.id ≤ ·)).mapM fun j => do
    let v ← s.fetch j
    return .line [w.point, v.point] .link

/-- The line along a path, whose members are positions; none for a path without waypoints. -/
def pathStrokes (s : Store K) (path : Json) : Checked (List (Stroke K)) := do
  if !path.truth then return []
  let members ← path.members
  let waypoints ← members.mapM s.fetchAt
  return [.line (waypoints.map (·.point)) .path]

/-- The drawing of a store with a path on top. -/
def drawing (s : Store K) (path : Json) (showIds : Bool) : Checked (List (Stroke K)) := do
  let waypoints := s.waypoints.toList
  let links ← waypoints.mapM s.linkStrokes
  let path ← s.pathStrokes path
  return links.flatten ++ waypoints.flatMap (·.strokes showIds) ++ path ++ [.equalAspect]

end Store

end WaypointMap
