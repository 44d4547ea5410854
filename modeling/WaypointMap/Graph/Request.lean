import WaypointMap.Graph

/-!
# Requests

Everything a client can ask of a graph, as data. A session is a list of requests; a failed
request ends nothing, and the next one finds the graph as the failed one left it.
-/

namespace WaypointMap

/-- A request of a client. Arguments of the wrong kind are part of it. -/
inductive Request (K : Type) where
  | create (x y : Checked K) (blocked : Checked (Compass Bool)) (hasObject : Bool)
  | connect (a : Json) (heading : Checked Heading) (b : Json)
  | placeWaypoint (x y : Checked K) (blocked : Checked (Compass Bool)) (origin : Json)
      (heading : Checked Heading)
  | placeObject (origin : Json) (x y : Checked K) (heading : Checked Heading)
  | configure (config : Checked (Config K))
  | get (id : Json)
  | nearby (x y : Checked K)
  | isFrontier (id : Json)
  | pathToFrontier (id : Json)
  | pathToObject (id : Json)

/-- What a client gets back. -/
inductive Answer (K : Type) where
  | done
  | id (i : Nat)
  | flag (b : Bool)
  | waypoint (w : Option (Waypoint K))
  | path (ids : List Nat)

namespace Request

variable {K : Type} [Scalar K]

def perform : Request K → GraphCall K (Answer K)
  | create x y blocked hasObject => .id <$> Graph.create x y blocked hasObject
  | connect a heading b => (fun _ => .done) <$> Graph.connect a heading b
  | placeWaypoint x y blocked origin heading =>
    .id <$> Graph.placeWaypoint x y blocked origin heading
  | placeObject origin x y heading => .id <$> Graph.placeObject origin x y heading
  | configure config => do
    Graph.configure (← Call.check config)
    return .done
  | get id => Call.ask fun g => (.waypoint ∘ some) <$> g.store.get id
  | nearby x y => Call.ask fun g => .waypoint <$> g.nearby x y
  | isFrontier id => Call.ask fun g => .flag <$> g.isFrontier id
  | pathToFrontier id => Call.ask fun g => .path <$> g.store.pathToFrontier id
  | pathToObject id => Call.ask fun g => .path <$> g.store.pathToObject id

def run (g : Graph K) (session : List (Request K)) : Graph K :=
  session.foldl (fun g r => (r.perform.run g).state) g

end Request

end WaypointMap
