import WaypointMap.Console.Width.Table
import WaypointMap.Text.Run

/-!
# Widths of texts

How many cells of a console a text takes. What is joined to the sign before takes none, and a
sign that is asked to be in colour takes two.
-/

namespace WaypointMap

namespace CodePoint

def cells (c : CodePoint) : Nat :=
  if inRuns c.value widthlessRuns then 0 else if inRuns c.value wideRuns then 2 else 1

/-- Whether a code point takes two cells instead of one if it is asked to be in colour. -/
def isWidened (c : CodePoint) : Bool := inRuns c.value widenedRuns

/-- Joins the code points around it. -/
def joiner : CodePoint := .ofNat 0x200D

/-- Asks for the plain sign of the code point before. -/
def textSelector : CodePoint := .ofNat 0xFE0E

/-- Asks for the coloured sign of the code point before. -/
def emojiSelector : CodePoint := .ofNat 0xFE0F

end CodePoint

namespace Text

/-- How many cells a text takes; `last` is the last code point before it that takes any, as long
as it was not asked to be in colour. -/
def cellsAfter (last : Option CodePoint) (t : Text) : Nat :=
  match t with
  | [] => 0
  | c :: rest =>
    if c = .joiner then cellsAfter last (rest.drop 1)
    else if c = .emojiSelector then
      (if (last.map (·.isWidened)).getD false then 1 else 0) + cellsAfter none rest
    else if c.cells = 0 then cellsAfter last rest
    else c.cells + cellsAfter (some c) rest
termination_by t.length
decreasing_by all_goals simp only [List.length_drop, List.length_cons]; omega

/-- How many cells a text takes. -/
def cells (t : Text) : Nat := cellsAfter none t

end Text

end WaypointMap
