import WaypointMap.Text

/-!
# Command lines

How the arguments of the program are sorted. There is one command, `replay`. Its options may
stand before and after the report file, an option that is repeated counts as last given, and
`--` ends the options. A request for help wins over everything but an option that is not
known or has no value. Before the command only help can be asked for.
-/

namespace WaypointMap

/-- Options that have a value. -/
inductive Setting where
  | config | threshold | frontierFrom | objectFrom | picture | level
  deriving DecidableEq

/-- Options without a value. -/
inductive Flag where
  | smoothing | help
  deriving DecidableEq

def Setting.all : List Setting :=
  [.config, .threshold, .frontierFrom, .objectFrom, .picture, .level]

/-- How an option is written. -/
def Setting.word : Setting → String
  | config => "--config"
  | threshold => "--dist-thresh"
  | frontierFrom => "--frontier-from"
  | objectFrom => "--object-from"
  | picture => "--save-plot"
  | level => "--log-level"

def Flag.word : Flag → String
  | smoothing => "--smooth"
  | help => "--help"

def Flag.all : List Flag := [.smoothing, .help]

/-- What an argument is by its looks. -/
inductive Item where
  | operand
  | endOfOptions
  | flag (f : Flag)
  /-- An option whose value is attached, or is the next argument. -/
  | setting (s : Setting) (attached : Option Text)
  | unknown

namespace Item

/-- Splits an option from the value that an equals sign attaches to it. -/
def splitValue (t : Text) : Text × Option Text :=
  let name := t.takeWhile (· != .char '=')
  match t.drop name.length with
  | [] => (name, none)
  | _ :: value => (name, some value)

/-- A single dash, followed by letters that each are an option. -/
def ofLetters (letters : Text) : Item :=
  if letters.all (· == .char 'h') then .flag .help else .unknown

def ofText (t : Text) : Item :=
  if t = .ofString "--" then .endOfOptions
  else
    match t with
    | .char '-' :: c :: rest =>
      let (name, value) := splitValue t
      match Flag.all.find? (name == .ofString ·.word), value with
      | some f, none => .flag f
      | some _, some _ => .unknown
      | none, _ =>
        match Setting.all.find? (name == .ofString ·.word) with
        | some s => .setting s value
        | none => if c == .char '-' then .unknown else ofLetters (c :: rest)
    | _ => .operand

end Item

/-- The arguments of a command, sorted. Later values of an option come first. -/
structure Arguments where
  operands : List Text := []
  values : List (Setting × Text) := []
  flags : List Flag := []

namespace Arguments

/-- Sorts the arguments of a command, unless an option is not known or has no value. -/
def read (a : Arguments) : List Text → Option Arguments
  | [] => some a
  | t :: rest =>
    match Item.ofText t with
    | .operand => read { a with operands := a.operands ++ [t] } rest
    | .endOfOptions => some { a with operands := a.operands ++ rest }
    | .flag f => read { a with flags := f :: a.flags } rest
    | .setting s (some v) => read { a with values := (s, v) :: a.values } rest
    | .setting s none =>
      match rest with
      | v :: rest => read { a with values := (s, v) :: a.values } rest
      | [] => none
    | .unknown => none

def value? (a : Arguments) (s : Setting) : Option Text :=
  (a.values.find? (·.1 = s)).map Prod.snd

/-- The options that are given, in the order in which each is first given, and the values that
count. -/
def settings (a : Arguments) : List (Setting × Text) :=
  (a.values.map Prod.fst).reverse.eraseDups.filterMap fun s => (a.value? s).map (s, ·)

end Arguments

/-- What the program is asked to do. -/
inductive Invocation where
  | help
  | misuse
  | replay (a : Arguments)

namespace Invocation

def ofReplay (args : List Text) : Invocation :=
  match Arguments.read {} args with
  | none => misuse
  | some a => if a.flags.contains .help then help else replay a

/-- Reads the options before a command, unless one of them is not known. Answers whether help
was asked for, and the words that are left. -/
def leading? (helpAsked : Bool) : List Text → Option (Bool × List Text)
  | [] => some (helpAsked, [])
  | t :: rest =>
    match Item.ofText t with
    | .flag .help => leading? true rest
    | .operand => some (helpAsked, t :: rest)
    | .endOfOptions => some (helpAsked, rest)
    | _ => none

/-- Reads a command and its arguments. If the command is not known, the words are taken for
options once more, and only these count. -/
def ofCommand : List Text → Invocation
  | [] => misuse
  | name :: args =>
    if name = .ofString "replay" then ofReplay args
    else
      match leading? false (name :: args) with
      | some (true, _) => help
      | _ => misuse

def ofArguments (args : List Text) : Invocation :=
  match leading? false args with
  | some (true, _) => help
  | some (false, words) => ofCommand words
  | none => misuse

end Invocation

end WaypointMap
