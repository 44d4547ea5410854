import WaypointMap.Json.Key
import WaypointMap.Scalar

/-!
# Configuration

How close a report has to be to a waypoint to count as that waypoint, and whether the
waypoint then moves towards it. Settings arrive as JSON. Unknown keys are reported before
anything else is looked at.
-/

namespace WaypointMap

structure Config (K : Type) where
  threshold : K
  smoothing : Bool

namespace Config

/-- Half the distance between the wheels, and no smoothing. -/
def default {K : Type} [Scalar K] : Config K := ⟨0.1, false⟩

def thresholdKey : Text := .ofString "dedup_distance_threshold"

def smoothingKey : Text := .ofString "smooth_positions"

def isKnown : Json → Bool
  | .text t => t == thresholdKey || t == smoothingKey
  | _ => false

/-- A value as a threshold; flags are no thresholds. -/
def threshold? : Json → Option (Checked Float)
  | .bool _ => none
  | v => v.number?

/-- A configuration from its settings. The threshold is a number, positive and finite. -/
def make (threshold smoothing : Json) : Checked (Config Float) := do
  match threshold? threshold with
  | none => throw (.thresholdNotNumber threshold)
  | some x =>
    let x ← x
    if x.isFinite && 0 < x then return ⟨x, smoothing.truth⟩
    else throw (.thresholdOutOfRange threshold)

/-- Refuses keys that no setting has. They are listed in their order, once each. -/
def checkKeys (keys : List Json) : Checked Unit :=
  let unknown := Json.distinctKeys (keys.filter (!isKnown ·))
  if unknown.isEmpty then .ok ()
  else
    match Json.unorderable? unknown with
    | some (later, earlier) => .error (.unorderable later earlier)
    | none => .error (.unknownSettings (Json.sortedKeys unknown))

def ofEntries (entries : List (Text × Json)) : Checked (Config Float) := do
  checkKeys (entries.map fun entry => .text entry.1)
  let initial : Config Float := default
  make ((Json.find? thresholdKey entries).getD (.decimal initial.threshold))
    ((Json.find? smoothingKey entries).getD (.bool initial.smoothing))

def unhashable? (items : List Json) : Option Json.Kind :=
  (items.map Json.kind).find? fun kind => kind == .list || kind == .object

/-- A configuration from any value. Everything that has members is asked for its keys, but
only an object has settings. -/
def ofJson : Json → Checked (Config Float)
  | .object entries => ofEntries entries
  | .list items => do
    if let some kind := unhashable? items then throw (.unhashable kind)
    checkKeys items
    throw (.notSettings .list)
  | .text t => do
    checkKeys (t.map fun c => .text [c])
    throw (.notSettings .text)
  | v => .error (.notIterable v.kind)

/-- A configuration whose threshold is half the distance between the wheels. -/
def ofWheelDistance (distance smoothing : Json) : Checked (Config Float) := do
  match distance.number? with
  | some x => make (.decimal ((← x) / 2.0)) smoothing
  | none => throw (.notDivisible distance.kind)

/-- A configuration from the settings of a file, with a threshold and a smoothing flag that
take their place. -/
def load (entries : List (Text × Json)) (threshold : Option Float) (smoothing : Bool) :
    Checked (Config Float) :=
  let entries := match threshold with
    | some x => Json.put thresholdKey (.decimal x) entries
    | none => entries
  let entries := if smoothing then Json.put smoothingKey (.bool true) entries else entries
  ofEntries entries

end Config

end WaypointMap
