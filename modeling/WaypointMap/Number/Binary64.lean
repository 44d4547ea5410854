import WaypointMap.Number.Power

/-!
# The value of a double

A double is not a number, an infinity, or a mantissa times a power of two. Everything
that is written about a double is computed from these parts in exact arithmetic.
-/

namespace WaypointMap

/-- What a double stands for. -/
inductive Binary64 where
  | nan
  | infinite (negative : Bool)
  /-- The number `± mantissa * 2 ^ exponent`. -/
  | finite (negative : Bool) (mantissa : Nat) (exponent : Int)
  deriving DecidableEq

namespace Binary64

/-- Stored bits of the mantissa. -/
def fractionBits : Nat := 52

/-- The exponent of the least double above zero. -/
def leastExponent : Int := -1074

/-- Reads the parts of a double off its bits. -/
def ofFloat (x : Float) : Binary64 :=
  let bits := x.toBits.toNat
  let negative := bits / twoTo 63 == 1
  let field := bits / twoTo fractionBits % 2048
  let fraction := bits % twoTo fractionBits
  if field == 2047 then
    if fraction == 0 then infinite negative else nan
  else if field == 0 then finite negative fraction leastExponent
  else finite negative (twoTo fractionBits + fraction) (leastExponent + field - 1)

/-- The integer part of a finite double, toward zero. -/
def truncate : Binary64 → Option Int
  | finite negative mantissa exponent =>
    let whole := mantissa * twoTo exponent / twoTo (-exponent)
    some (if negative then -(whole : Int) else whole)
  | _ => none

end Binary64

end WaypointMap
