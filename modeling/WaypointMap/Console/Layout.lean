import WaypointMap.Console.Cluster
import WaypointMap.Text.Blank

/-!
# Layout

How a console lays out a text in lines. Tabs lead to stops, which are counted in cells. A line
that is too wide ends at the last word that fits; a word that fits no line is cut between its
clusters.
-/

namespace WaypointMap

namespace Console

/-- How many cells a line has. -/
def width : Nat := 3000

/-- The distance of the tab stops, in cells. -/
def tabWidth : Nat := 8

/-- The parts of a line from a column on, each but the last with a blank after it, and with
blanks up to the next stop. -/
def setAtStops (column : Nat) : List Text → Text
  | [] => []
  | [last] => last
  | part :: rest =>
    let part := part ++ [.char ' ']
    let column := column + part.cells
    let gap := (tabWidth - column % tabWidth) % tabWidth
    part ++ List.replicate gap (.char ' ') ++ setAtStops (column + gap) rest

/-- A line with blanks in the place of its tabs. -/
def expandTabs (line : Text) : Text := setAtStops 0 (line.splitOn (.char '\t'))

/-- The words of a line with the blanks after them; the first has the blanks before it too. -/
def words (line : Text) : List Text :=
  match line.splitBy fun c d => !c.isBlank || d.isBlank with
  | [] => []
  | [word] => [word]
  | first :: second :: rest =>
    if first.all (·.isBlank) then (first ++ second) :: rest else first :: second :: rest

/-- Puts clusters into lines, after a line of some cells. -/
def fill (line : Text) (used : Nat) : List Cluster → List Text
  | [] => [line]
  | c :: rest =>
    if used + c.cells ≤ width then fill (line ++ c.points) (used + c.cells) rest
    else line :: fill c.points c.cells rest

/-- Puts words into lines, after a line of some cells. The blanks after a word need no room. -/
def wrap (line : Text) (used : Nat) : List Text → List Text
  | [] => [line]
  | word :: rest =>
    let needed := (Text.trimEnd word).cells
    if used + needed ≤ width then wrap (line ++ word) (used + word.cells) rest
    else if needed ≤ width then line :: wrap word word.cells rest
    else
      let pieces := fill [] 0 (Cluster.ofText word)
      let last := pieces.getLast?.getD []
      let before := if line.isEmpty then [] else [line]
      before ++ pieces.dropLast ++ wrap last last.cells rest

/-- Drops blanks at the end of a line that has more code points than a line has cells. -/
def dropExcess (line : Text) : Text :=
  let blanks := line.length - line.trimEnd.length
  line.take (line.length - min blanks (line.length - width))

/-- The lines that a text takes. -/
def layout (t : Text) : List Text :=
  (t.splitOn (.char '\n')).flatMap fun line => (wrap [] 0 (words (expandTabs line))).map dropExcess

end Console

end WaypointMap
