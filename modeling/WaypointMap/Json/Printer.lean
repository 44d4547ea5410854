import WaypointMap.Json
import WaypointMap.Number.Written
import WaypointMap.Text.Quoted

/-!
# Printing JSON

Values as JSON in ASCII, on one line. Code points outside ASCII are escaped in UTF-16, so
that a lone surrogate survives.
-/

namespace WaypointMap

namespace CodePoint

/-- The escapes of a code point in UTF-16. -/
def utf16Escape (n : Nat) : String :=
  if n < 0x10000 then "\\u" ++ hexadecimal 4 n
  else
    let high := surrogateBase + (n - 0x10000) / 0x400
    let low := 0xDC00 + (n - 0x10000) % 0x400
    "\\u" ++ hexadecimal 4 high ++ "\\u" ++ hexadecimal 4 low

/-- A code point inside a JSON string. -/
def inString (c : CodePoint) : String :=
  let n := c.value
  if n == 0x22 then "\\\""
  else if n == 0x5C then "\\\\"
  else if 0x20 ≤ n && n < 0x7F then String.singleton (Char.ofNat n)
  else utf16Escape n

end CodePoint

namespace Json

def printText (t : Text) : String :=
  "\"" ++ String.join (t.map CodePoint.inString) ++ "\""

/-- A double as JSON; the special ones have the words that the reader takes. -/
def printDecimal (x : Float) : String :=
  match Binary64.ofFloat x with
  | .nan => "NaN"
  | .infinite negative => if negative then "-Infinity" else "Infinity"
  | .finite .. => shortestText x

mutual

/-- A value as JSON. -/
def print : Json → String
  | null => "null"
  | bool b => if b then "true" else "false"
  | int n => toString n
  | decimal x => printDecimal x
  | text t => printText t
  | list items => "[" ++ ", ".intercalate (printItems items) ++ "]"
  | object entries => "\x7b" ++ ", ".intercalate (printEntries entries) ++ "\x7d"

def printItems : List Json → List String
  | [] => []
  | v :: rest => v.print :: printItems rest

def printEntries : List (Text × Json) → List String
  | [] => []
  | (key, v) :: rest => (printText key ++ ": " ++ v.print) :: printEntries rest

end

end Json

end WaypointMap
