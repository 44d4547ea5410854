import WaypointMap.CommandLine.Options
import WaypointMap.CommandLine.Table
import WaypointMap.Config.File
import WaypointMap.Console
import WaypointMap.Console.Sequence
import WaypointMap.Drawing.Axis
import WaypointMap.Drawing.Picture
import WaypointMap.Graph.Replay
import WaypointMap.Report.File
import WaypointMap.Text.Line

/-!
# The replay command

Builds a map from a report file, prints it, and answers what was asked about it. A refusal
is reported and leaves nothing but the log; any other failure ends the program.
-/

namespace WaypointMap

structure PictureFile where
  file : Text
  strokes : List (Stroke Float)

/-- What a replay puts out. -/
structure Transcript where
  title : Option String := none
  rows : List (List Text) := []
  lines : List Text := []
  log : List (Event Float) := []
  errors : List Text := []
  picture : Option PictureFile := none

/-- How a run of the program ends. -/
inductive Conclusion where
  | help
  | misuse
  | failed (e : Error)
  | finished (t : Transcript)

def Conclusion.exitCode : Conclusion → Nat
  | help => 0
  | misuse => 2
  | failed _ => 1
  | finished t => if t.errors.isEmpty then 0 else 1

namespace ReplayOptions

/-- What a replay finds out; there is no path where none was asked for. -/
structure Findings where
  frontierPath : Option (List Nat)
  objectPath : Option (List Nat)

/-- The path that is drawn: the one to the frontier if it was asked for. -/
def Findings.drawnPath (f : Findings) : Option (List Nat) := f.frontierPath <|> f.objectPath

/-- Reads what the two files hold, the settings first. -/
def prepare (o : ReplayOptions) (reports : InputFile) :
    Checked (Config Float × List (Report Float)) := do
  let entries ← match o.config with
    | some file => Config.entriesOfContents file.name file.contents
    | none => pure []
  let config ← Config.load entries o.threshold o.smoothing
  return (config, ← Report.ofContents reports.name reports.contents)

/-- Places the reports and looks for the paths. -/
def explore (o : ReplayOptions) (reports : List (Report Float)) : GraphCall Float Findings := do
  let _ ← Graph.replay reports
  let frontierPath ← o.frontierFrom.mapM fun i => Call.ask (·.store.pathToFrontier (.int i))
  let objectPath ← o.objectFrom.mapM fun i => Call.ask (·.store.pathToObject (.int i))
  return { frontierPath, objectPath }

def pathText (path : List Nat) : String :=
  if path.isEmpty then "none found" else " -> ".intercalate (path.map toString)

/-- What a reader finds in the lines of a console: their texts, without the blanks around them. -/
def seenLines (lines : List Text) : List Text :=
  ((lines.flatMap Text.lines).map Text.trim).filter (!·.isEmpty)

/-- The lines for a path that was asked for. -/
def pathLinesTo (target : String) (source : Option Int) (path : Option (List Nat)) :
    List Text :=
  match source, path with
  | some i, some path =>
    seenLines (Console.layout (.ofString s!"Nearest {target} from {i}: {pathText path}"))
  | _, _ => []

/-- The lines for the paths that were asked for. -/
def pathLines (o : ReplayOptions) (f : Findings) : List Text :=
  pathLinesTo "frontier" o.frontierFrom f.frontierPath ++
    pathLinesTo "object" o.objectFrom f.objectPath

/-- A picture under a name, with a path on top, if it can be written. -/
def draw (files : FileView) (g : Graph Float) (path : List Nat) (name : Text) :
    Checked PictureFile := do
  let strokes ← g.store.drawing (.list (path.map fun (i : Nat) => .int i)) true
  let file ← Picture.file name
  if let some fault := AxisFault.ofStrokes? strokes then throw (.undrawable fault)
  if let some fault := PathFault.ofText? file then throw (.badPath fault)
  if let some o := files.obstacle? file then throw (.obstacle o file)
  return { file, strokes }

/-- The lines that a reader finds for a marked-up text, if they can be written. -/
def consoleLines (t : Text) : Checked (List Text) :=
  match Console.lines t with
  | .error problem => .error (.badMarkup problem)
  | .ok lines =>
    match Unwritable.find? (·.isSurrogate) ([CodePoint.char '\n'].intercalate lines) with
    | some u => .error (.unprintable u)
    | none => .ok (seenLines lines)

/-- The lines for a picture under a name. -/
def pictureLines (path : List Nat) (name : Text) : Checked (List Text) := do
  let saved ← consoleLines (.ofString "Saved plot to " ++ name)
  if path.isEmpty then return saved
  return saved ++ seenLines (Console.layout (.ofString s!"Plotted path: {pathText path}"))

/-- The events that are logged at the level that was asked for. -/
def shown (o : ReplayOptions) (log : List (Event Float)) : List (Event Float) :=
  log.filter fun e => o.level.rank ≤ e.level.rank

def errorLines (e : Error) : List Text :=
  let shown := (Text.ofString "Error: " ++ e.message).withoutSequences
  shown.escapeSurrogates.lines.map Text.trimEnd

/-- Ends a replay that did not succeed. -/
def stop (o : ReplayOptions) (log : List (Event Float)) (e : Error) : Conclusion :=
  if e.category.isRefusal then .finished { errors := errorLines e, log := o.shown log }
  else .failed e

/-- A map and what was found out about it. -/
def present (o : ReplayOptions) (files : FileView) (g : Graph Float) (f : Findings)
    (log : List (Event Float)) : Checked Transcript := do
  let path := f.drawnPath.getD []
  let picture ← o.picture.mapM (draw files g path)
  let pictureLines ← o.picture.mapM (pictureLines path)
  return {
    title := some (Table.title g.store.size)
    rows := Table.rows g.store.waypoints.toList
    lines := o.pathLines f ++ pictureLines.getD []
    log := o.shown log
    picture }

def run (o : ReplayOptions) (files : FileView) (reports : InputFile) : Conclusion :=
  match o.prepare reports with
  | .error e => o.stop [] e
  | .ok (config, reports) =>
    let outcome := (o.explore reports).run (.empty config)
    match outcome.result with
    | .error e => o.stop outcome.log e
    | .ok findings =>
      match o.present files outcome.state findings outcome.log with
      | .error e => .failed e
      | .ok transcript => .finished transcript

end ReplayOptions

namespace Invocation

/-- The files that an invocation reads. -/
def inputs : Invocation → List Text
  | replay a => (a.value? .config).toList ++ a.operands.take 1
  | _ => []

/-- Runs an invocation among some files. -/
def run (files : FileView) : Invocation → Conclusion
  | help => .help
  | misuse => .misuse
  | replay a =>
    match ReplayOptions.read files a with
    | .error .misuse => .misuse
    | .error (.failed e) => .failed e
    | .ok (options, reports) => options.run files reports

end Invocation

end WaypointMap
