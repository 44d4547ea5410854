import WaypointMap.CommandLine.Arguments
import WaypointMap.CommandLine.FileTree
import WaypointMap.Event
import WaypointMap.Number.Numeral

/-!
# The options of a replay

What the arguments of a replay say. Options are read in the order in which each is first given,
then the report file is, and the first of them that cannot be read decides how the run ends.
-/

namespace WaypointMap

/-- The capital of an ASCII letter; every other code point stays. -/
def CodePoint.toUpper : CodePoint → CodePoint
  | .char c => .char c.toUpper
  | c => c

/-- The level that a word names, in any letter case. -/
def Level.ofText? (t : Text) : Option Level :=
  all.find? fun level => t.map CodePoint.toUpper == Text.ofString level.name

/-- Why arguments cannot be read. -/
inductive Refusal where
  /-- Not what a replay takes: a file that cannot be read, or a value of the wrong form. -/
  | misuse
  /-- A failure that the program does not handle. -/
  | failed (e : Error)

/-- What was read, or a misuse if nothing was. -/
def Refusal.orMisuse {α : Type} : Option α → Except Refusal α
  | some x => .ok x
  | none => .error .misuse

structure InputFile where
  name : Text
  contents : Text

def InputFile.read (files : FileView) (path : Text) : Except Refusal InputFile :=
  match PathFault.ofText? path with
  | some fault => .error (.failed (.badPath fault))
  | none => (Refusal.orMisuse (files.contents? path)).map (⟨path, ·⟩)

/-- How a report file is replayed. -/
structure ReplayOptions where
  config : Option InputFile := none
  threshold : Option Float := none
  smoothing : Bool := false
  frontierFrom : Option Int := none
  objectFrom : Option Int := none
  picture : Option Text := none
  level : Level := .warning

namespace ReplayOptions

/-- Options with the value of one more. -/
def set (files : FileView) (o : ReplayOptions) (s : Setting) (t : Text) :
    Except Refusal ReplayOptions :=
  match s with
  | .config => do return { o with config := some (← InputFile.read files t) }
  | .threshold => do
    return { o with threshold := some (← Refusal.orMisuse (Numeral.float? t)) }
  | .frontierFrom => do
    return { o with frontierFrom := some (← Refusal.orMisuse (Numeral.int? t)) }
  | .objectFrom => do
    return { o with objectFrom := some (← Refusal.orMisuse (Numeral.int? t)) }
  | .picture => .ok { o with picture := if t.isEmpty then none else some t }
  | .level => do return { o with level := ← Refusal.orMisuse (Level.ofText? t) }

/-- Reads the arguments of a replay: the options, and one report file. -/
def read (files : FileView) (a : Arguments) : Except Refusal (ReplayOptions × InputFile) := do
  let plain : ReplayOptions := { smoothing := a.flags.contains .smoothing }
  let options ← a.settings.foldlM (fun o (s, t) => o.set files s t) plain
  let path ← Refusal.orMisuse a.operands.head?
  let reports ← InputFile.read files path
  match a.operands with
  | [_] => return (options, reports)
  | _ => throw .misuse

end ReplayOptions

end WaypointMap
