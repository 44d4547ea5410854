import WaypointMap.Text

/-!
# Blanks

Which code points are trimmed from the ends of a text. Two sets are in use: names are
trimmed of all white space, numerals keep the four information separators.
-/

namespace WaypointMap

namespace CodePoint

/-- White space outside ASCII. -/
def isWideBlank (c : CodePoint) : Bool :=
  let n := c.value
  n == 0x85 || n == 0xA0 || n == 0x1680 || (0x2000 ≤ n && n ≤ 0x200A) ||
    n == 0x2028 || n == 0x2029 || n == 0x202F || n == 0x205F || n == 0x3000

/-- Tab to carriage return, and the space. -/
def isNarrowBlank (c : CodePoint) : Bool :=
  let n := c.value
  (0x09 ≤ n && n ≤ 0x0D) || n == 0x20

/-- The separators of files, groups, records and units. -/
def isSeparator (c : CodePoint) : Bool :=
  0x1C ≤ c.value && c.value ≤ 0x1F

/-- What is trimmed around a name. -/
def isBlank (c : CodePoint) : Bool :=
  c.isNarrowBlank || c.isSeparator || c.isWideBlank

/-- What is trimmed around a numeral. -/
def isNumeralBlank (c : CodePoint) : Bool :=
  c.isNarrowBlank || c.isWideBlank

end CodePoint

namespace Text

/-- Drops a class of code points from both ends. -/
def trimWith (blank : CodePoint → Bool) (t : Text) : Text :=
  ((t.dropWhile blank).reverse.dropWhile blank).reverse

/-- Drops the blanks around a name. -/
def trim (t : Text) : Text := t.trimWith CodePoint.isBlank

/-- Drops the blanks at the end of a text. -/
def trimEnd (t : Text) : Text := (t.reverse.dropWhile (·.isBlank)).reverse

/-- The parts of a text between its blanks. -/
def words (t : Text) : List Text := (t.splitOnP (·.isBlank)).filter (!·.isEmpty)

end Text

end WaypointMap
