import WaypointMap.Error
import WaypointMap.Number.Power

/-!
# Indices

Positions that clients give as JSON values. An index fits into 64 bits, the sign included;
whether something lies at it is another question.
-/

namespace WaypointMap

/-- Whether an integer is small enough for an index. -/
def fitsIndex (i : Int) : Bool := -(twoTo 63 : Int) ≤ i && i < twoTo 63

/-- The complaint about an integer at which nothing lies; `nothing` is the complaint if it
could be an index. -/
def Error.ofIndex (nothing : Error) (i : Int) : Error :=
  if fitsIndex i then nothing else .indexTooLarge

/-- A value as an integer in the place of an index: an integer, or a flag. -/
def Json.index : Json → Checked Int
  | .int i => .ok i
  | .bool b => .ok b.toInt
  | v => .error (.notIndex v.kind)

end WaypointMap
