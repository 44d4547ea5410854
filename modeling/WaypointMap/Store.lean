import WaypointMap.Call
import WaypointMap.Event
import WaypointMap.Index

/-!
# The store

Waypoints in the order of their creation. They are never removed, so the id of a waypoint
is its position. A store is read through `link` and `resolve` and written through `create`,
`setLink` and `moveTo`.
-/

namespace WaypointMap

/-- The waypoints of a map, in the order of their ids. -/
structure Store (K : Type) where
  waypoints : Array (Waypoint K)

abbrev StoreCall (K : Type) := Call (Event K) (Store K)

namespace Store

variable {K : Type}

def empty : Store K := ⟨#[]⟩

def size (s : Store K) : Nat := s.waypoints.size

/-- The position that a value names, if it is an integer and the id of a waypoint. -/
def resolve? (s : Store K) : Json → Option Nat
  | .int (.ofNat i) => if i < s.size then some i else none
  | _ => none

/-- The position that a value names, or a complaint about it. -/
def resolve (s : Store K) (id : Json) : Checked Nat :=
  match s.resolve? id with
  | some i => .ok i
  | none => .error (.unknownWaypoint id s.size)

/-- Whether a value is the id of a waypoint. -/
def isValid (s : Store K) (id : Json) : Bool := (s.resolve? id).isSome

def fetch (s : Store K) (i : Nat) : Checked (Waypoint K) :=
  match s.waypoints[i]? with
  | some w => .ok w
  | none => .error (.ofIndex .noSuchIndex i)

def get (s : Store K) (id : Json) : Checked (Waypoint K) := do
  let i ← s.resolve id
  s.fetch i

/-- The waypoint at a position; a negative position counts from the end. -/
def fetchInt (s : Store K) (i : Int) : Checked (Waypoint K) :=
  let j := if i < 0 then i + s.size else i
  if j < 0 then .error (.ofIndex .noSuchIndex i) else s.fetch j.toNat

def fetchAt (s : Store K) (index : Json) : Checked (Waypoint K) := do
  let i ← index.index
  s.fetchInt i

def link (s : Store K) (i : Nat) (h : Heading) : Option Link :=
  s.waypoints[i]?.map (·.links.get h)

def adjust (s : Store K) (i : Nat) (f : Waypoint K → Waypoint K) : Store K :=
  ⟨s.waypoints.modify i f⟩

def setLink (s : Store K) (i : Nat) (h : Heading) (l : Link) : Store K :=
  s.adjust i (·.setLink h l)

def moveTo (s : Store K) (i : Nat) (x y : K) : Store K :=
  s.adjust i fun w => { w with x, y }

/-- Adds a waypoint at the end. Blocked headings start blocked, the others unexplored. -/
def push (s : Store K) (x y : K) (blocked : Compass Bool) (hasObject : Bool) : Store K :=
  ⟨s.waypoints.push { id := s.size, x, y, links := blocked.map Link.ofFlag, hasObject }⟩

def isFrontier (s : Store K) (i : Nat) : Bool :=
  (s.waypoints[i]?.map (·.isFrontier)).getD false

def isObject (s : Store K) (i : Nat) : Bool :=
  (s.waypoints[i]?.map (·.hasObject)).getD false

/-- Adds a waypoint and answers its id. The flags are looked at before the coordinates. -/
def create (x y : Checked K) (blocked : Checked (Compass Bool)) (hasObject : Bool) :
    StoreCall K Nat := do
  let blocked ← Call.check blocked
  let x ← Call.check x
  let y ← Call.check y
  let s ← Call.read
  Call.update (·.push x y blocked hasObject)
  return s.size

end Store

end WaypointMap
