/-!
# Texts

A text is a list of code points. Characters alone do not do: a JSON string may
escape one half of a surrogate pair, and such a text must still be kept, compared
and quoted. Positions in a text count code points.
-/

namespace WaypointMap

/-- A Unicode code point: a character, or a surrogate that stands alone. -/
inductive CodePoint where
  | char (c : Char)
  | surrogate (offset : Fin 2048)
  deriving DecidableEq

/-- The number of the first surrogate. -/
def surrogateBase : Nat := 0xD800

namespace CodePoint

def value : CodePoint → Nat
  | char c => c.toNat
  | surrogate k => surrogateBase + k

/-- The code point with a number; numbers past the last code point give NUL. -/
def ofNat (n : Nat) : CodePoint :=
  if h : surrogateBase ≤ n ∧ n < surrogateBase + 2048 then
    surrogate ⟨n - surrogateBase, by omega⟩
  else char (Char.ofNat n)

def asciiDigit? : CodePoint → Option Nat
  | char c => if c.isDigit then some (c.toNat - '0'.toNat) else none
  | surrogate _ => none

end CodePoint

/-- A sequence of code points. -/
abbrev Text := List CodePoint

namespace Text

def ofString (s : String) : Text := s.toList.map .char

/-- The string of a text; a lone surrogate becomes the replacement character. -/
def toString (t : Text) : String :=
  String.ofList (t.map fun
    | .char c => c
    | .surrogate _ => '\uFFFD')

/-- Strictly before in the order by code points. -/
def before : Text → Text → Bool
  | _, [] => false
  | [], _ :: _ => true
  | a :: s, b :: t => a.value < b.value || (a == b && before s t)

end Text

end WaypointMap
