import WaypointMap.Number.Shortest

/-!
# Written numbers

Two ways to write a double: with the fewest digits that read back, and with a fixed number
of places. Both have their own words for what is not a number.
-/

namespace WaypointMap

/-- How a shortest decimal is laid out. -/
structure DecimalStyle where
  /-- The least decimal exponent written positionally. -/
  positionalFrom : Int
  /-- The first decimal exponent written with an exponent mark. -/
  positionalTo : Int
  /-- What follows the digits of a whole number. -/
  wholeMark : String
  /-- The least number of digits of an exponent, which always has a sign. -/
  exponentDigits : Nat

/-- Coordinates from 0.0001 to below 10 ^ 16 are written positionally, whole ones with `.0`;
exponents have two digits. -/
def coordinateStyle : DecimalStyle := ⟨-4, 16, ".0", 2⟩

namespace DecimalStyle

def zeros (n : Nat) : String := String.ofList (List.replicate n '0')

/-- The exponent mark, the sign and the digits of an exponent. -/
def exponentText (style : DecimalStyle) (e : Int) : String :=
  let digits := (Nat.toDigits 10 e.natAbs).leftpad style.exponentDigits '0'
  (if e < 0 then "e-" else "e+") ++ String.ofList digits

/-- A decimal without trailing zeros in the layout of a style. -/
def layOut (style : DecimalStyle) (d : Decimal) : String :=
  let digits := Nat.toDigits 10 d.coefficient
  let leading := d.exponent + digits.length - 1
  if style.positionalFrom ≤ leading && leading < style.positionalTo then
    if 0 ≤ d.exponent then
      String.ofList digits ++ zeros d.exponent.toNat ++ style.wholeMark
    else if 0 ≤ leading then
      let whole := leading.toNat + 1
      String.ofList (digits.take whole) ++ "." ++ String.ofList (digits.drop whole)
    else "0." ++ zeros (-leading - 1).toNat ++ String.ofList digits
  else
    let fraction := digits.drop 1
    String.ofList (digits.take 1) ++
      (if fraction.isEmpty then "" else "." ++ String.ofList fraction) ++
      style.exponentText leading

end DecimalStyle

def infinityText (negative : Bool) : String := if negative then "-inf" else "inf"

/-- Puts the sign before the text of a magnitude. -/
def signed (negative : Bool) (magnitude : String) : String :=
  if negative then "-" ++ magnitude else magnitude

/-- A double with the fewest digits that read back. -/
def shortestText (x : Float) : String :=
  match Binary64.ofFloat x with
  | .nan => "nan"
  | .infinite negative => infinityText negative
  | .finite negative mantissa exponent =>
    let magnitude : Decimal := if mantissa == 0 then ⟨0, 0⟩ else .shortest mantissa exponent
    signed negative (coordinateStyle.layOut magnitude)

/-- The quotient rounded to the nearest integer, a half to the even one. -/
def roundHalfEven (numerator denominator : Nat) : Nat :=
  let q := numerator / denominator
  let rest := numerator % denominator
  if 2 * rest < denominator || (2 * rest == denominator && q % 2 == 0) then q else q + 1

/-- A double with a fixed number of places, rounded from its exact value. A negative number
keeps its sign even when all digits are zero. -/
def fixedText (places : Nat) (x : Float) : String :=
  match Binary64.ofFloat x with
  | .nan => "nan"
  | .infinite negative => infinityText negative
  | .finite negative mantissa exponent =>
    let units := roundHalfEven (mantissa * twoTo exponent * tenTo places) (twoTo (-exponent))
    let fraction := (Nat.toDigits 10 (units % tenTo places)).leftpad places '0'
    signed negative (toString (units / tenTo places) ++ "." ++ String.ofList fraction)

end WaypointMap
