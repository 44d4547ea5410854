import WaypointMap.Number.Binary64

/-!
# The shortest decimal of a double

Among the decimals that read back as a given double there is a least number of digits;
of the decimals with so few digits the nearest to the double is taken, and of two equally
near ones the even one. The search runs over grids of powers of ten from coarse to fine:
if any point of a grid reads back, one of the two neighbours of the double does.
-/

namespace WaypointMap

/-- The number `coefficient * 10 ^ exponent`. -/
structure Decimal where
  coefficient : Nat
  exponent : Int
  deriving DecidableEq

namespace Decimal

/-- Moves trailing zeros of the coefficient into the exponent. -/
def strip (d : Decimal) : Decimal :=
  if h : d.coefficient ≠ 0 ∧ d.coefficient % 10 = 0 then
    strip ⟨d.coefficient / 10, d.exponent + 1⟩
  else d
termination_by d.coefficient
decreasing_by omega

end Decimal

/-- The reals that round to one positive double, over a common denominator. -/
structure RoundingInterval where
  low : Nat
  center : Nat
  high : Nat
  denominator : Nat
  /-- The ends belong to the interval when the mantissa is even. -/
  closed : Bool

namespace RoundingInterval

/-- The interval of `mantissa * 2 ^ exponent`. Below a power of two the gap is half as wide. -/
def ofParts (mantissa : Nat) (exponent : Int) : RoundingInterval :=
  let scale := twoTo (exponent - 2)
  let narrow := mantissa == twoTo Binary64.fractionBits && Binary64.leastExponent < exponent
  { low := (4 * mantissa - if narrow then 1 else 2) * scale
    center := 4 * mantissa * scale
    high := (4 * mantissa + 2) * scale
    denominator := twoTo (2 - exponent)
    closed := mantissa % 2 == 0 }

/-- The point of the grid of multiples of `10 ^ power` to choose, if one is inside. -/
def onGrid (i : RoundingInterval) (power : Int) : Option Nat :=
  let up := tenTo (-power)
  let unit := i.denominator * tenTo power
  let q := i.center * up / unit
  let rest := i.center * up % unit
  let inside (a b : Nat) : Bool := a < b || (i.closed && a == b)
  let below := inside (i.low * up) (q * unit)
  let above := inside ((q + 1) * unit) (i.high * up)
  if below && above then
    if 2 * rest < unit || (2 * rest == unit && q % 2 == 0) then some q else some (q + 1)
  else if below then some q
  else if above then some (q + 1)
  else none

/-- The first grid with a point inside, from `10 ^ power` down. -/
def search (i : RoundingInterval) : (grids : Nat) → (power : Int) → Decimal
  | 0, power => ⟨i.center * tenTo (-power) / (i.denominator * tenTo power), power⟩
  | grids + 1, power =>
    match i.onGrid power with
    | some q => ⟨q, power⟩
    | none => i.search grids (power - 1)

end RoundingInterval

namespace Decimal

/-- Seventeen digits always read back, and the first grid is at most two powers too coarse. -/
def gridLimit : Nat := 20

/-- The shortest decimal of the positive double `mantissa * 2 ^ exponent`. The first grid is
coarser than the double: 30103 / 100000 exceeds the decimal logarithm of two. -/
def shortest (mantissa : Nat) (exponent : Int) : Decimal :=
  let first := (Nat.log2 mantissa + exponent + 1) * 30103 / 100000 + 1
  ((RoundingInterval.ofParts mantissa exponent).search gridLimit first).strip

end Decimal

end WaypointMap
