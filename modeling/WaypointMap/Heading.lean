import WaypointMap.Error
import WaypointMap.Text.Blank

/-!
# Headings

The four cardinal headings, their numbers and their names. A name may be written in any
letter case, in full or by its first letter, and may have blanks around it.
-/

namespace WaypointMap

inductive Heading where
  | north | east | south | west
  deriving DecidableEq

namespace Heading

/-- The headings clockwise from north. -/
def all : List Heading := [north, east, south, west]

/-- The heading that leads back. -/
def opposite : Heading → Heading
  | north => south
  | east => west
  | south => north
  | west => east

@[simp] theorem opposite_opposite (h : Heading) : h.opposite.opposite = h := by
  cases h <;> rfl

@[simp] theorem opposite_ne (h : Heading) : h.opposite ≠ h := by
  cases h <;> decide

theorem opposite_eq_iff {h k : Heading} : h.opposite = k ↔ h = k.opposite := by
  constructor <;> rintro rfl <;> simp

/-- The number of a heading, clockwise from north. -/
def code : Heading → Nat
  | north => 0
  | east => 1
  | south => 2
  | west => 3

def name : Heading → String
  | north => "NORTH"
  | east => "EAST"
  | south => "SOUTH"
  | west => "WEST"

/-- The name of a heading as a word of a sentence. -/
def word : Heading → String
  | north => "north"
  | east => "east"
  | south => "south"
  | west => "west"

def ofInt? (n : Int) : Option Heading := all.find? fun h => n == h.code

/-- The capitals that a code point turns into. Besides the ASCII letters, the long s and the
two ligatures of s and t have capitals that occur in names. -/
def capitals : CodePoint → Text
  | .char 'ſ' => [.char 'S']
  | .char 'ﬅ' => [.char 'S', .char 'T']
  | .char 'ﬆ' => [.char 'S', .char 'T']
  | .char c => [.char c.toUpper]
  | c => [c]

def ofLetter? : Text → Option Heading
  | [.char c] => all.find? fun h => h.name.toList.head? == some c.toUpper
  | _ => none

def ofText? (t : Text) : Option Heading :=
  let name := t.trim
  match ofLetter? name with
  | some h => some h
  | none => all.find? fun h => name.flatMap capitals == Text.ofString h.name

/-- The heading that a value names: a number from 0 to 3, or a name. -/
def ofJson? : Json → Option Heading
  | .int n => ofInt? n
  | .text t => ofText? t
  | _ => none

/-- The heading that a value names, or a complaint about it. -/
def ofJson (v : Json) : Checked Heading :=
  match ofJson? v with
  | some h => .ok h
  | none => .error (.unknownHeading v)

end Heading

end WaypointMap
