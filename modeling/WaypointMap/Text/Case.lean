import WaypointMap.Text.Case.Table
import WaypointMap.Text.Run

/-!
# Small letters

A text in small letters. Every code point has a small form of its own, with two exceptions:
the capital I with a dot becomes two code points, and the small form of a capital sigma
depends on whether it ends a word.
-/

namespace WaypointMap

namespace CodePoint

/-- Whether case rules look past a code point. -/
def isCaseIgnorable (c : CodePoint) : Bool := inRuns c.value caseIgnorableRuns

/-- Whether a code point that case rules do not look past has a case. -/
def isCased (c : CodePoint) : Bool := inRuns c.value casedRuns

def CapitalRun.holds (run : CapitalRun) (n : Nat) : Bool :=
  run.first ≤ n && n ≤ run.last && (n - run.first) % run.step == 0

/-- The small form of a code point wherever it stands. -/
def lower : CodePoint → Text
  | .char 'İ' => [.char 'i', .char '\u0307']
  | c =>
    match capitalRuns.find? (·.holds c.value) with
    | some run => [.ofNat (c.value + run.distance).toNat]
    | none => [c]

/-- The small form of the capital sigma. -/
def lowerSigma (final : Bool) : CodePoint := .char (if final then 'ς' else 'σ')

end CodePoint

namespace Text

/-- Whether the first code point that case rules do not look past has a case. -/
def startsCased (t : Text) : Bool :=
  match t.dropWhile (·.isCaseIgnorable) with
  | c :: _ => c.isCased
  | [] => false

/-- The small letters of a text; `seen` is what comes before it, last first. A sigma ends a
word if a letter comes before it and none after it. -/
def lowerAfter (seen : Text) : Text → Text
  | [] => []
  | .char 'Σ' :: rest =>
    .lowerSigma (startsCased seen && !startsCased rest) :: lowerAfter (.char 'Σ' :: seen) rest
  | c :: rest => c.lower ++ lowerAfter (c :: seen) rest

def lower (t : Text) : Text := lowerAfter [] t

end Text

end WaypointMap
