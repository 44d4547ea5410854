import WaypointMap.Search

/-!
# Paths to the nearest match

The match of the least label, and the way to it, read back through the predecessors. A way
that does not repeat a waypoint is no longer than the store, which bounds the reading.
-/

namespace WaypointMap

namespace Search

variable {K : Type} [Scalar K]

/-- Whether a label is less than that of the best match so far. -/
def isCloser (cost : K) : Option (Nat × K) → Bool
  | none => true
  | some (_, best) => cost < best

/-- Continues the scan for the match of the least label; `i` is the first of the rest. -/
def closestFrom (isMatch : Nat → Bool) (best : Option (Nat × K)) (i : Nat) :
    List (Option K) → Option (Nat × K)
  | [] => best
  | none :: rest => closestFrom isMatch best (i + 1) rest
  | some cost :: rest =>
    let best := if isCloser cost best && isMatch i then some (i, cost) else best
    closestFrom isMatch best (i + 1) rest

/-- The match of the least label; of equal labels the lowest id wins. -/
def closest? (st : Search K) (isMatch : Nat → Bool) : Option Nat :=
  (closestFrom isMatch none 0 st.labels.toList).map Prod.fst

/-- Reads a way back from `i` to the source; `later` is what follows `i`. There is none if a
predecessor is missing, or if the way has more than `bound` steps. -/
def wayTo? (st : Search K) (source : Nat) : Nat → Nat → List Nat → Option (List Nat)
  | 0, i, later => if i = source then some (i :: later) else none
  | bound + 1, i, later =>
    if i = source then some (i :: later)
    else
      match st.predecessor i with
      | some j => wayTo? st source bound j (i :: later)
      | none => none

/-- The path to the closest match, both ends included; empty if there is no match. -/
def path (st : Search K) (source : Nat) (isMatch : Nat → Bool) : List Nat :=
  match st.closest? isMatch with
  | some target => (st.wayTo? source st.labels.size target []).getD []
  | none => []

end Search

namespace Store

variable {K : Type} [Scalar K]

/-- The path from a waypoint to the nearest match. -/
def pathToNearest (s : Store K) (source : Json) (isMatch : Nat → Bool) :
    Checked (List Nat) := do
  let i ← s.resolve source
  let st ← s.spread source
  return st.path i isMatch

/-- The path from a waypoint to the nearest one with an unexplored heading. -/
def pathToFrontier (s : Store K) (source : Json) : Checked (List Nat) :=
  s.pathToNearest source s.isFrontier

/-- The path from a waypoint to the nearest object. -/
def pathToObject (s : Store K) (source : Json) : Checked (List Nat) :=
  s.pathToNearest source s.isObject

end Store

end WaypointMap
