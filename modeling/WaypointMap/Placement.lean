import WaypointMap.Config
import WaypointMap.Store.Connect
import WaypointMap.Store.Proximity

/-!
# Placement

Reports of a spot close to a known waypoint count as that waypoint; other reports make new
waypoints, linked to the one that the report came from. All checks come before the first
change, so a refused report leaves the store as it was.
-/

namespace WaypointMap

/-- The weight of the stored position when a report is blended in. -/
def keptWeight {K : Type} [Scalar K] : K := 0.3

/-- The weight of the reported position when a report is blended in. -/
def reportedWeight {K : Type} [Scalar K] : K := 0.7

namespace Store

variable {K : Type} [Scalar K]

/-- A stored coordinate with a reported one blended in. -/
def blend (kept reported : K) : K := keptWeight * kept + reportedWeight * reported

/-- Moves a waypoint towards a point, if positions are smoothed. -/
def mergePosition (config : Config K) (i : Nat) (x y : K) (s : Store K) : Store K :=
  if config.smoothing then
    s.adjust i fun w => { w with x := blend w.x x, y := blend w.y y }
  else s

/-- Places a report of a spot that was reached from `origin` in a heading. The first waypoint
has no origin. Answers the id of the known or new waypoint. -/
def placeWaypoint (config : Config K) (x y : Checked K) (blocked : Checked (Compass Bool))
    (origin : Json) (heading : Checked Heading) : StoreCall K Nat := do
  match ← Call.ask (·.nearby x y config.threshold) with
  | some i =>
    let x ← Call.check x
    let y ← Call.check y
    Call.log (.visited i)
    Call.update (mergePosition config i x y)
    return i
  | none =>
    if (← Call.read).size = 0 then
      let i ← create x y blocked false
      let x ← Call.check x
      let y ← Call.check y
      Call.log (.createdFirst i x y)
      return i
    else
      let h ← Call.check heading
      let o ← Call.ask (·.resolve origin)
      let i ← create x y blocked false
      join o h i
      let x ← Call.check x
      let y ← Call.check y
      Call.log (.created i x y h o)
      return i

/-- The object that a waypoint close to a point holds. -/
def nearbyObject (s : Store K) (x y : Checked K) (threshold : K) : Checked (Option Nat) := do
  return (← s.nearby x y threshold).filter s.isObject

/-- Places a report of an object that was seen from `origin` in a heading. A new object has
no way out, and a known one is linked once more. Answers the id of the object. -/
def placeObject (config : Config K) (origin : Json) (x y : Checked K)
    (heading : Checked Heading) : StoreCall K Nat := do
  let h ← Call.check heading
  let o ← Call.ask (·.resolve origin)
  match ← Call.ask (·.nearbyObject x y config.threshold) with
  | some i =>
    let x ← Call.check x
    let y ← Call.check y
    Call.log (.sighted i)
    Call.update (mergePosition config i x y)
    join o h i
    return i
  | none =>
    let i ← create x y (.ok (.replicate true)) true
    let x ← Call.check x
    let y ← Call.check y
    Call.log (.createdObject i x y)
    join o h i
    return i

end Store

end WaypointMap
