import WaypointMap.Store

/-!
# Edits

Changes by hand to single waypoints. Nothing is checked but the waypoint and the slot, so
links may become one-sided or lead nowhere.
-/

namespace WaypointMap

/-- The heading of a link slot; negative slots count from the last. -/
def Heading.ofSlot? (slot : Int) : Option Heading :=
  ofInt? (if slot < 0 then slot + all.length else slot)

namespace Store

variable {K : Type}

def overwriteLink (id slot : Json) (link : Link) : StoreCall K Unit := do
  let i ← Call.ask (·.resolve id)
  let slot ← Call.check slot.index
  match Heading.ofSlot? slot with
  | some h => Call.update (·.setLink i h link)
  | none => Call.check (.error (.ofIndex .noSuchSlot slot))

def overwritePosition (id : Json) (x y : Checked K) : StoreCall K Unit := do
  let i ← Call.ask (·.resolve id)
  let x ← Call.check x
  let y ← Call.check y
  Call.update (·.moveTo i x y)

end Store

end WaypointMap
