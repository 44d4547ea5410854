import WaypointMap.Placement
import WaypointMap.Search.Path

/-!
# Graphs

A store with the configuration under which reports are placed in it. Questions leave a
graph as it is; calls may change it.
-/

namespace WaypointMap

/-- A map under construction. -/
structure Graph (K : Type) where
  store : Store K
  config : Config K

abbrev GraphCall (K : Type) := Call (Event K) (Graph K)

namespace Graph

variable {K : Type}

def empty (config : Config K) : Graph K := ⟨.empty, config⟩

def onStore {α : Type} (c : StoreCall K α) : GraphCall K α :=
  Call.onPart store (fun g s => { g with store := s }) c

def configure (config : Config K) : GraphCall K Unit := Call.update ({ · with config })

def connect (a : Json) (heading : Checked Heading) (b : Json) : GraphCall K Unit :=
  onStore (Store.connect a heading b)

def create (x y : Checked K) (blocked : Checked (Compass Bool)) (hasObject : Bool) :
    GraphCall K Nat :=
  onStore (Store.create x y blocked hasObject)

variable [Scalar K]

def placeWaypoint (x y : Checked K) (blocked : Checked (Compass Bool)) (origin : Json)
    (heading : Checked Heading) : GraphCall K Nat := do
  let g ← Call.read
  onStore (Store.placeWaypoint g.config x y blocked origin heading)

def placeObject (origin : Json) (x y : Checked K) (heading : Checked Heading) :
    GraphCall K Nat := do
  let g ← Call.read
  onStore (Store.placeObject g.config origin x y heading)

/-- The waypoint that a report at a point would count as. -/
def nearby (g : Graph K) (x y : Checked K) : Checked (Option (Waypoint K)) := do
  match ← g.store.nearby x y g.config.threshold with
  | some i => some <$> g.store.fetch i
  | none => return none

def isFrontier (g : Graph K) (id : Json) : Checked Bool :=
  (·.isFrontier) <$> g.store.get id

end Graph

end WaypointMap
