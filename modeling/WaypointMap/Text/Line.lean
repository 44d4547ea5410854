import WaypointMap.Text.Blank
import WaypointMap.Text.Newline

/-!
# Lines

The lines of a text as a reader counts them: every line separator ends one, and a carriage
return takes a line feed right after it along.
-/

namespace WaypointMap

/-- Line feed to carriage return, the separators of files, groups and records, and what is a
line or paragraph separator outside ASCII. -/
def CodePoint.endsLine (c : CodePoint) : Bool :=
  let n := c.value
  (0x0A ≤ n && n ≤ 0x0D) || (0x1C ≤ n && n ≤ 0x1E) || n == 0x85 || n == 0x2028 || n == 0x2029

/-- The lines of a text; a separator at the end begins an empty line. -/
def Text.lines (t : Text) : List Text := (unifyLineEnds t).splitOnP (·.endsLine)

end WaypointMap
