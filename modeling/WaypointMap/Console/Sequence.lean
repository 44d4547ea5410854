import WaypointMap.Text

/-!
# Control sequences

Sequences of code points that command a terminal instead of showing on it, such as those that
change the colour. A sequence is an escape and a bracket, parameters, other code points in
between, and a last one that says what to do.
-/

namespace WaypointMap

/-- A control sequence without its beginning. -/
structure ControlSequence where
  parameters : Text
  between : Text
  final : CodePoint

namespace ControlSequence

/-- Digits and the signs after them. -/
def isParameter (c : CodePoint) : Bool := 0x30 ≤ c.value && c.value ≤ 0x3F

/-- The space and the signs after it. -/
def isBetween (c : CodePoint) : Bool := 0x20 ≤ c.value && c.value ≤ 0x2F

/-- ASCII letters and the signs around them. -/
def isFinal (c : CodePoint) : Bool := 0x40 ≤ c.value && c.value ≤ 0x7E

def size (s : ControlSequence) : Nat := s.parameters.length + s.between.length + 3

/-- The sequence that a text begins with, if it is complete. -/
def ofText? : Text → Option ControlSequence
  | .char '\x1b' :: .char '[' :: rest =>
    let parameters := rest.takeWhile isParameter
    let rest := rest.drop parameters.length
    let between := rest.takeWhile isBetween
    match rest.drop between.length with
    | final :: _ => if isFinal final then some ⟨parameters, between, final⟩ else none
    | [] => none
  | _ => none

end ControlSequence

namespace Text

/-- A text without the control sequences in it. -/
def withoutSequences (t : Text) : Text :=
  match t with
  | [] => []
  | c :: rest =>
    match ControlSequence.ofText? (c :: rest) with
    | some s => withoutSequences (rest.drop (s.size - 1))
    | none => c :: withoutSequences rest
termination_by t.length
decreasing_by all_goals simp only [List.length_drop, List.length_cons]; omega

end Text

end WaypointMap
