import WaypointMap.Json
import WaypointMap.Number.Binary64

/-!
# Keys

How keys compare, texts by their code points and numbers by their values. Flags count as
zero and one, and an integer equals a decimal of the same value; nothing is rounded.
-/

namespace WaypointMap

/-- The size of a double among all numbers: minus infinity, the finite numbers in units of the
least double above zero, infinity, and not a number in the last place. -/
def Binary64.rank : Binary64 → Int × Int
  | infinite true => (-1, 0)
  | finite negative mantissa exponent =>
    let units : Int := mantissa * twoTo (exponent - leastExponent)
    (0, if negative then -units else units)
  | infinite false => (1, 0)
  | nan => (2, 0)

namespace Json

/-- The size of an integer among all numbers, in units of the least double above zero. -/
def rankOfInt (n : Int) : Int × Int := (0, n * twoTo (-Binary64.leastExponent))

/-- The size of a number or a flag among all numbers. -/
def rank? : Json → Option (Int × Int)
  | bool b => some (rankOfInt b.toInt)
  | int n => some (rankOfInt n)
  | decimal x => some (Binary64.ofFloat x).rank
  | _ => none

/-- Strictly before in the order of keys: null, then numbers by size, then texts by code
points. -/
def keyBefore : Json → Json → Bool
  | text s, text t => s.before t
  | text _, _ => false
  | _, text _ => true
  | a, b =>
    match a.rank?, b.rank? with
    | some (i, m), some (j, n) => i < j || (i == j && m < n)
    | none, some _ => true
    | _, _ => false

def sameKey (a b : Json) : Bool := !keyBefore a b && !keyBefore b a

/-- Some keys without repetitions; the first of the same keys stays. -/
def distinctKeys (keys : List Json) : List Json :=
  keys.foldl (fun seen key => if seen.any (sameKey key) then seen else seen ++ [key]) []

def sortedKeys (keys : List Json) : List Json := keys.mergeSort fun a b => !keyBefore b a

/-- Whether two keys are of kinds that have a common order. -/
def isOrderable : Json → Json → Bool
  | text _, text _ => true
  | a, b => a.rank?.isSome && b.rank?.isSome

/-- The kinds of the first two neighbors without a common order, the later one first. -/
def unorderable? : List Json → Option (Kind × Kind)
  | a :: b :: rest => if isOrderable a b then unorderable? (b :: rest) else some (b.kind, a.kind)
  | _ => none

end Json

end WaypointMap
