import WaypointMap.Console.Markup
import WaypointMap.Json.Display
import WaypointMap.Json.Parser
import WaypointMap.Text.Bytes

/-!
# Errors

Every cause for which a request is refused or a computation has no answer, its wording, and
its category. Errors carry the value they complain about, as it was given.
-/

namespace WaypointMap

/-- Why a file cannot be written. -/
inductive FileObstacle where
  /-- A directory on the way to it does not exist. -/
  | missing
  /-- A file lies where the way to it needs a directory. -/
  | notDirectory
  /-- It is a directory itself. -/
  | isDirectory
  | nameTooLong
  deriving DecidableEq

def FileObstacle.code : FileObstacle → Nat
  | missing => 2
  | notDirectory => 20
  | isDirectory => 21
  | nameTooLong => 36

def FileObstacle.words : FileObstacle → String
  | missing => "No such file or directory"
  | notDirectory => "Not a directory"
  | isDirectory => "Is a directory"
  | nameTooLong => "File name too long"

/-- Why a text is no path. -/
inductive PathFault where
  | unwritable (u : Unwritable)
  | nul
  deriving DecidableEq

def PathFault.message : PathFault → String
  | unwritable u => u.message
  | nul => "embedded null byte"

/-- Why the axes of a picture cannot be drawn. -/
inductive AxisFault where
  /-- The sides have no ratio to each other. -/
  | noRatio
  /-- The room for the ticks cannot be told. -/
  | noRoom
  /-- The ticks cannot be counted. -/
  | noCount
  /-- A tick lies beyond the doubles. -/
  | endless
  deriving DecidableEq

def AxisFault.message : AxisFault → String
  | noRatio => "'box_aspect' and 'fig_aspect' must be positive"
  | noRoom => "cannot convert float NaN to integer"
  | noCount => "arange: cannot compute length"
  | endless => "cannot convert float infinity to integer"

inductive Error where
  /-- A waypoint id that the map does not hold. -/
  | unknownWaypoint (id : Json) (count : Nat)
  | unknownHeading (given : Json)
  /-- A number of blocked flags other than four. -/
  | flagCount (count : Nat)
  /-- Blocked flags of a kind that cannot be counted. -/
  | uncountable (kind : Json.Kind)
  | thresholdNotNumber (given : Json)
  | thresholdOutOfRange (given : Json)
  | unknownSettings (keys : List Json)
  /-- Settings keys of kinds that have no common order; `later` comes after `earlier`. -/
  | unorderable (later earlier : Json.Kind)
  /-- A value without members where members are needed. -/
  | notIterable (kind : Json.Kind)
  /-- A list or an object in the place of a settings key. -/
  | unhashable (kind : Json.Kind)
  /-- Settings that hold nothing unknown but are not an object either. -/
  | notSettings (kind : Json.Kind)
  /-- A wheel distance that cannot be halved. -/
  | notDivisible (kind : Json.Kind)
  | reportNotObject (given : Json)
  | unknownReportKind (given : Json)
  | missingField (key : String) (report : List (Text × Json))
  | fieldNotNumber (key : String) (given : Json)
  | fieldNotInteger (key : String) (given : Json)
  | invalidBlocked (given : Json)
  | notReportList (file : Text)
  | notSettingsFile (file : Text)
  /-- A kind of picture file that cannot be written. -/
  | unknownFormat (format : Text) (known : List String)
  /-- A picture whose texts can only be measured by a typesetter. -/
  | noTypesetter (program : Text)
  | undrawable (fault : AxisFault)
  | badPath (fault : PathFault)
  | obstacle (o : FileObstacle) (file : Text)
  | badMarkup (problem : Markup.Problem)
  /-- An output that cannot be written. -/
  | unprintable (u : Unwritable)
  /-- An integer beyond the range of doubles. -/
  | integerTooLarge
  /-- A finite difference of coordinates whose square is beyond the range of doubles. -/
  | squareTooLarge
  | infiniteInteger
  | noSuchIndex
  | noSuchSlot
  | indexTooLarge
  | notIndex (kind : Json.Kind)
  | unreadable (reason : Json.ReadError)

namespace Error

/-- Categories of errors, by what the caller did wrong. -/
inductive Category where
  | range | heading | value | format | type | index | overflow | depth | markup | environment
  | encoding
  | file (o : FileObstacle)
  deriving DecidableEq

def category : Error → Category
  | unknownWaypoint .. => .range
  | unknownHeading .. => .heading
  | flagCount .. | thresholdNotNumber .. | thresholdOutOfRange .. | unknownSettings ..
  | reportNotObject .. | unknownReportKind .. | missingField .. | fieldNotNumber ..
  | fieldNotInteger .. | invalidBlocked .. | notReportList .. | notSettingsFile ..
  | unknownFormat ..
  | unreadable (.tooManyDigits ..) => .value
  | unreadable (.malformed ..) => .format
  | unreadable (.tooDeep ..) => .depth
  | uncountable .. | unorderable .. | notIterable .. | unhashable .. | notSettings ..
  | notDivisible .. | notIndex .. => .type
  | noSuchIndex | noSuchSlot | indexTooLarge => .index
  | noTypesetter .. => .environment
  | badPath .nul => .value
  | undrawable .endless => .overflow
  | undrawable .noRatio | undrawable .noRoom | undrawable .noCount => .value
  | badPath (.unwritable ..) | unprintable .. => .encoding
  | obstacle o _ => .file o
  | badMarkup .missingPart => .value
  | badMarkup (.unmatched ..) | badMarkup (.nothingToClose ..) => .markup
  | integerTooLarge | squareTooLarge | infiniteInteger => .overflow

/-- The categories that stand for a bad request or bad input, and not for a failed
computation. -/
def Category.isRefusal : Category → Bool
  | range | heading | value | format => true
  | type | index | overflow | depth | markup | environment | encoding | file _ => false

/-- What an error says; the file that it is about is not named. -/
def wording : Error → String
  | unknownWaypoint id count =>
    s!"Waypoint id {id.display} out of range (map holds {count} waypoints)"
  | unknownHeading given => s!"Direction {given.display} does not exist"
  | flagCount count => s!"Expected 4 blocked flags (N, E, S, W), got {count}"
  | uncountable kind => s!"object of type '{kind.name}' has no len()"
  | thresholdNotNumber given =>
    s!"dedup_distance_threshold must be a number, got {given.display}"
  | thresholdOutOfRange given =>
    s!"dedup_distance_threshold must be positive and finite, got {given.display}"
  | unknownSettings keys => s!"Unknown graph config keys: {(Json.list keys).display}"
  | unorderable later earlier =>
    s!"'<' not supported between instances of '{later.name}' and '{earlier.name}'"
  | notIterable kind => s!"'{kind.name}' object is not iterable"
  | unhashable kind => s!"unhashable type: '{kind.name}'"
  | notSettings kind =>
    s!"topomap.types.GraphConfig() argument after ** must be a mapping, not {kind.name}"
  | notDivisible kind =>
    s!"unsupported operand type(s) for /: '{kind.name}' and 'float'"
  | reportNotObject given => s!"Report must be a mapping, got {given.display}"
  | unknownReportKind given => s!"Unknown report type: {given.display}"
  | missingField key report => s!"Report is missing '{key}': {(Json.object report).display}"
  | fieldNotNumber key given =>
    s!"Report field '{key}' must be a number, got {given.display}"
  | fieldNotInteger key given =>
    s!"Report field '{key}' must be an integer, got {given.display}"
  | invalidBlocked given => s!"Invalid blocked flags: {given.display}"
  | notReportList _ => "expected a JSON list of reports"
  | notSettingsFile _ => "expected a JSON object of graph settings"
  | unknownFormat format known =>
    s!"Format {format.quoted} is not supported (supported formats: " ++
      ", ".intercalate known ++ ")"
  | noTypesetter program =>
    s!"{program.quoted} not found; install it or change rcParams['pgf.texsystem'] " ++
      "to an available TeX implementation"
  | undrawable fault => fault.message
  | badPath fault => fault.message
  | obstacle o file => s!"[Errno {o.code}] {o.words}: {file.quoted}"
  | badMarkup problem => problem.message
  | unprintable u =>
    u.message ++ "\n*** You may need to add PYTHONIOENCODING=utf-8 to your environment ***"
  | integerTooLarge => "int too large to convert to float"
  | squareTooLarge => "(34, 'Numerical result out of range')"
  | infiniteInteger => "cannot convert float infinity to integer"
  | noSuchIndex => "list index out of range"
  | noSuchSlot => "list assignment index out of range"
  | indexTooLarge => "cannot fit 'int' into an index-sized integer"
  | notIndex kind => s!"list indices must be integers or slices, not {kind.name}"
  | unreadable reason => reason.message

/-- The message of an error. A file whose contents are not what they should be comes first. -/
def message (e : Error) : Text :=
  match e with
  | notReportList file | notSettingsFile file => file ++ .ofString (": " ++ e.wording)
  | _ => .ofString e.wording

end Error

/-- An argument whose check may already have failed. The failure counts when the argument is
first needed. -/
abbrev Checked (α : Type) := Except Error α

end WaypointMap
