import WaypointMap.Error

/-!
# Scalars

The arithmetic that a map needs of its coordinates. Doubles are what programs use;
rationals give the same maps without rounding, overflow or special values.
-/

namespace WaypointMap

/-- Numbers that coordinates can be made of. -/
class Scalar (K : Type) extends Add K, Sub K, Mul K, LT K, OfScientific K where
  decideLT : DecidableLT K
  /-- Not a number, which compares with nothing. -/
  isNaN : K → Bool
  /-- Neither infinite nor not a number. -/
  isFinite : K → Bool
  /-- The second power of a number, which a search takes of differences. It need not be rounded
  as the product of the number with itself. -/
  secondPower : K → K

instance Scalar.decidableLT {K : Type} [Scalar K] : DecidableLT K := Scalar.decideLT

/-- The second power of a double is taken to be the product, which is the nearest double to it. A
library of powers may answer a neighbor of that one; the sign, zero, special values and the bound of
the finite range are the same. -/
instance : Scalar Float where
  decideLT := inferInstance
  isNaN := Float.isNaN
  isFinite := Float.isFinite
  secondPower x := x * x

instance : Scalar Rat where
  decideLT := inferInstance
  isNaN _ := false
  isFinite _ := true
  secondPower x := x * x

namespace Scalar

variable {K : Type} [Scalar K]

/-- The product of a number with itself, which thresholds and distances to spots are made of. -/
def square (d : K) : K := d * d

/-- The second power of a number, unless it leaves the finite range. -/
def checkedPower (d : K) : Checked K :=
  if isFinite d && !isFinite (secondPower d) then .error .squareTooLarge
  else .ok (secondPower d)

end Scalar

/-- The nearest double to an integer, unless the integer is too large for one. -/
def Checked.ofInt (n : Int) : Checked Float :=
  let x := Float.ofInt n
  if x.isFinite then .ok x else .error .integerTooLarge

namespace Json

/-- A number or a flag as a double; other kinds are no numbers. -/
def number? : Json → Option (Checked Float)
  | bool b => some (Checked.ofInt b.toInt)
  | int n => some (Checked.ofInt n)
  | decimal x => some (.ok x)
  | _ => none

/-- The square of a number or a flag as a double. An integer is squared before it is rounded. -/
def squaredNumber? : Json → Option (Checked Float)
  | bool b => some (Checked.ofInt (b.toInt * b.toInt))
  | int n => some (Checked.ofInt (n * n))
  | decimal x => some (.ok (Scalar.square x))
  | _ => none

end Json

end WaypointMap
