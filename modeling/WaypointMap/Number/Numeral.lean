import WaypointMap.Text.Blank
import WaypointMap.Text.Digit
import WaypointMap.Number.Shortest

/-!
# Numerals

Numbers that arrive as text. A numeral may be surrounded by blanks, may use the decimal
digits of any script, may group digits by single underscores, and may have a sign. Decimal
numerals also have a fraction, an exponent, and the words for infinity and not a number.
-/

namespace WaypointMap

/-- Integers with more digits than this are not read. -/
def integerDigitLimit : Nat := 4300

namespace Decimal

/-- The nearest double to a signed decimal; too large a decimal gives an infinity. -/
def toFloat (negative : Bool) (d : Decimal) : Float :=
  let x := Float.ofScientific d.coefficient (d.exponent < 0) d.exponent.natAbs
  if negative then -x else x

end Decimal

namespace Numeral

/-- The number that a list of digits denotes. -/
def positional (digits : List Nat) : Nat :=
  digits.foldl (fun n d => 10 * n + d) 0

/-- The ASCII character that a code point of a numeral stands for. -/
def plain? (c : CodePoint) : Option Char :=
  match c with
  | .char k =>
    if k.toNat < 127 then some k else c.digit?.map fun d => Char.ofNat ('0'.toNat + d)
  | .surrogate _ => none

/-- A text in ASCII, without the blanks around it. -/
def plain (t : Text) : Option (List Char) :=
  (t.trimWith CodePoint.isNumeralBlank).mapM plain?

/-- Splits off a sign; true is minus. -/
def splitSign : List Char → Bool × List Char
  | '-' :: cs => (true, cs)
  | '+' :: cs => (false, cs)
  | cs => (false, cs)

/-- Splits off the longest run of digits in which single underscores may stand between two
digits; the flag says that a digit came before. -/
def splitDigits (afterDigit : Bool) : List Char → List Nat × List Char
  | [] => ([], [])
  | c :: cs =>
    if c.isDigit then
      let (digits, rest) := splitDigits true cs
      ((c.toNat - '0'.toNat) :: digits, rest)
    else if c == '_' && afterDigit && (cs.head?.map Char.isDigit).getD false then
      splitDigits false cs
    else ([], c :: cs)

/-- Reads an exponent that ends the numeral; no exponent is zero. -/
def exponent? : List Char → Option Int
  | [] => some 0
  | c :: cs =>
    if c == 'e' || c == 'E' then
      let (negative, cs) := splitSign cs
      match splitDigits false cs with
      | (d :: digits, []) =>
        let n : Int := positional (d :: digits)
        some (if negative then -n else n)
      | _ => none
    else none

/-- Reads a magnitude written in digits. -/
def magnitude? (cs : List Char) : Option Decimal :=
  let (whole, cs) := splitDigits false cs
  let (fraction, cs) : List Nat × List Char := match cs with
    | '.' :: cs => splitDigits false cs
    | _ => ([], cs)
  if whole.isEmpty && fraction.isEmpty then none
  else (exponent? cs).map fun e => ⟨positional (whole ++ fraction), e - fraction.length⟩

def word? (negative : Bool) (cs : List Char) : Option Float :=
  let word := String.ofList (cs.map Char.toLower)
  let infinity : Float := 1.0 / 0.0
  if word == "inf" || word == "infinity" then some (if negative then -infinity else infinity)
  else if word == "nan" then some (0.0 / 0.0)
  else none

def float? (t : Text) : Option Float := do
  let (negative, cs) := splitSign (← plain t)
  match word? negative cs with
  | some x => some x
  | none => (magnitude? cs).map (Decimal.toFloat negative)

def int? (t : Text) : Option Int := do
  let (negative, cs) := splitSign (← plain t)
  match splitDigits false cs with
  | (d :: digits, []) =>
    if integerDigitLimit < digits.length + 1 then none
    else
      let n : Int := positional (d :: digits)
      some (if negative then -n else n)
  | _ => none

end Numeral

end WaypointMap
