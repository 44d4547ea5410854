import WaypointMap.Compass
import WaypointMap.Json.Member
import WaypointMap.Number.Numeral
import WaypointMap.Number.Binary64
import WaypointMap.Scalar

/-!
# Reports

What explorers send in: spots that they reached and objects that they saw. A report is read
field by field, and the first field that is missing or malformed is the one reported.
-/

namespace WaypointMap

/-- A report of an explorer. -/
inductive Report (K : Type) where
  /-- The explorer went from `origin` in a heading, arrived at a point, and sensed which
  headings are blocked there. -/
  | waypoint (x y : K) (blocked : Compass Bool) (origin : Int) (heading : Heading)
  /-- The explorer stood at `origin` and saw an object at a point. -/
  | object (origin : Int) (x y : K) (heading : Heading)

namespace Report

/-- A field as a number: a number, a flag, or a numeral. -/
def number (key : String) (v : Json) : Checked Float :=
  match v with
  | .text t =>
    match Numeral.float? t with
    | some x => .ok x
    | none => .error (.fieldNotNumber key v)
  | _ => v.number?.getD (.error (.fieldNotNumber key v))

/-- A field as an integer: a number, whose fraction is dropped, or a numeral. -/
def integer (key : String) (v : Json) : Checked Int :=
  match v with
  | .int n => .ok n
  | .decimal x =>
    match Binary64.ofFloat x with
    | .infinite _ => .error .infiniteInteger
    | b =>
      match b.truncate with
      | some n => .ok n
      | none => .error (.fieldNotInteger key v)
  | .text t =>
    match Numeral.int? t with
    | some n => .ok n
    | none => .error (.fieldNotInteger key v)
  | _ => .error (.fieldNotInteger key v)

/-- Applies the entries of an object of blocked flags in their order. -/
def blockedEntries (flags : Compass Bool) : List (Text × Json) → Checked (Compass Bool)
  | [] => .ok flags
  | (key, v) :: rest =>
    match Heading.ofJson (.text key) with
    | .ok h => blockedEntries (flags.set h v.truth) rest
    | .error e => .error e

/-- A field of blocked flags: absent, one entry for each blocked heading, or four flags. -/
def blockedField : Json → Checked (Compass Bool)
  | .null => .ok (.replicate false)
  | .object entries => blockedEntries (.replicate false) entries
  | .list [n, e, s, w] => .ok ⟨n.truth, e.truth, s.truth, w.truth⟩
  | v => .error (.invalidBlocked v)

def optional (key : String) (entries : List (Text × Json)) : Option Json :=
  Json.find? (.ofString key) entries

def required (key : String) (entries : List (Text × Json)) : Checked Json :=
  match optional key entries with
  | some v => .ok v
  | none => .error (.missingField key entries)

/-- Reads a report of a spot. The origin is 0 and the heading is north if they are absent. -/
def waypointOf (entries : List (Text × Json)) : Checked (Report Float) := do
  let x ← number "x" (← required "x" entries)
  let y ← number "y" (← required "y" entries)
  let blocked ← blockedField ((optional "blocked" entries).getD .null)
  let origin ← integer "origin" ((optional "origin" entries).getD (.int 0))
  let heading ← match optional "direction" entries with
    | some v => Heading.ofJson v
    | none => .ok .north
  return waypoint x y blocked origin heading

def objectOf (entries : List (Text × Json)) : Checked (Report Float) := do
  let origin ← integer "origin" (← required "origin" entries)
  let x ← number "x" (← required "x" entries)
  let y ← number "y" (← required "y" entries)
  let heading ← Heading.ofJson (← required "direction" entries)
  return object origin x y heading

/-- The kind of a report that does not name one. -/
def defaultKind : Json := .text (.ofString "waypoint")

def ofJson : Json → Checked (Report Float)
  | .object entries =>
    let kind := (optional "type" entries).getD defaultKind
    match kind with
    | .text t =>
      if t = .ofString "waypoint" then waypointOf entries
      else if t = .ofString "object" then objectOf entries
      else .error (.unknownReportKind kind)
    | _ => .error (.unknownReportKind kind)
  | v => .error (.reportNotObject v)

/-- Reads reports one after the other, up to the first that is refused. -/
def ofList : List Json → Checked (List (Report Float))
  | [] => .ok []
  | v :: rest => do
    let report ← ofJson v
    return report :: (← ofList rest)

/-- Reads the members of a value as reports. -/
def ofMembers (v : Json) : Checked (List (Report Float)) := do
  let members ← v.members
  ofList members

end Report

end WaypointMap
