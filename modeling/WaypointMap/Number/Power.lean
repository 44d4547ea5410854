/-!
# Powers

Scales that are powers of two or ten. A factor with a negative exponent is one, and its
inverse then takes its place.
-/

namespace WaypointMap

/-- Two to an exponent; one if the exponent is negative. -/
def twoTo (exponent : Int) : Nat := Nat.pow 2 exponent.toNat

/-- Ten to an exponent; one if the exponent is negative. -/
def tenTo (exponent : Int) : Nat := Nat.pow 10 exponent.toNat

end WaypointMap
