import WaypointMap.Text.Quoted

/-!
# Texts as bytes

Texts are written in UTF-8, which has no bytes for a surrogate that stands alone. In a path,
the surrogates from DC80 to DCFF stand for the bytes that are no UTF-8.
-/

namespace WaypointMap

namespace CodePoint

def isSurrogate : CodePoint → Bool
  | char _ => false
  | surrogate _ => true

/-- Whether a code point is a surrogate that stands for a byte in a path. -/
def isByte (c : CodePoint) : Bool := 0xDC80 ≤ c.value && c.value ≤ 0xDCFF

/-- How many bytes a code point takes in a path. -/
def byteCount : CodePoint → Nat
  | char c => c.utf8Size
  | surrogate _ => 1

end CodePoint

namespace Text

/-- How many bytes a text takes in a path. -/
def byteCount (t : Text) : Nat := t.foldr (fun c count => c.byteCount + count) 0

/-- A text with an escape in the place of every surrogate. -/
def escapeSurrogates (t : Text) : Text :=
  t.flatMap fun c => if c.isSurrogate then Text.ofString (CodePoint.numericEscape c.value) else [c]

end Text

/-- A run of surrogates that cannot be written, and where in a text it begins. -/
structure Unwritable where
  run : Text
  position : Nat
  deriving DecidableEq

namespace Unwritable

/-- The run that begins with the first code point of a class. -/
def find? (starts : CodePoint → Bool) (t : Text) : Option Unwritable :=
  (t.findIdx? starts).map fun i => ⟨(t.drop i).takeWhile (·.isSurrogate), i⟩

def message (u : Unwritable) : String :=
  let place := match u.run with
    | [c] => s!"character {Text.quoted [c]} in position {u.position}"
    | run => s!"characters in position {u.position}-{u.position + run.length - 1}"
  s!"'utf-8' codec can't encode {place}: surrogates not allowed"

end Unwritable

end WaypointMap
