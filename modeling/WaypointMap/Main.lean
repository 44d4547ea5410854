import WaypointMap.CommandLine.Replay

/-!
# The program

Reads the files that a command line names, and prints what the command finds out.
-/

namespace WaypointMap

namespace Main

/-- The contents of a file; none if it cannot be read. -/
def readFile? (path : Text) : IO (Option Text) := do
  try
    return some (.ofString (← IO.FS.readFile path.toString))
  catch _ => return none

def widths (rows : List (List Text)) : List Nat :=
  rows.foldl (fun ws row => List.zipWith max ws (row.map List.length)) (List.replicate 8 0)

def rowLine (ws : List Nat) (row : List Text) : String :=
  let cell (width : Nat) (t : Text) : String := Text.toString (t.rightpad width (.char ' '))
  "  ".intercalate (List.zipWith cell ws row)

/-- A stroke as a line of a picture file. -/
def strokeLine : Stroke Float → String
  | .line points ink =>
    "line " ++ ink.color ++ String.join (points.map fun p => " " ++ pointText p)
  | .marker p ink => "marker " ++ ink.color ++ " " ++ ink.marker ++ " " ++ pointText p
  | .label p id => s!"label {id} " ++ pointText p
  | .equalAspect => "aspect equal"
where
  /-- A point with all digits of its coordinates. -/
  pointText (p : Float × Float) : String := shortestText p.1 ++ "," ++ shortestText p.2

def writePicture (p : PictureFile) : IO Unit :=
  IO.FS.writeFile p.file.toString
    (String.join (p.strokes.map fun s => strokeLine s ++ "\n"))

def printTranscript (t : Transcript) : IO Unit := do
  for event in t.log do IO.eprintln event.line
  for line in t.errors do IO.eprintln line.toString
  if let some title := t.title then IO.println title
  let ws := widths t.rows
  for row in t.rows do IO.println (rowLine ws row)
  if let some picture := t.picture then writePicture picture
  for line in t.lines do IO.println line.toString

def usage : String :=
  "Usage: replay [OPTIONS] REPORTS_FILE\n\n" ++
    String.join (Setting.all.map fun s => "  " ++ s.word ++ " VALUE\n") ++
    String.join (Flag.all.map fun f => "  " ++ f.word ++ "\n")

/-- What was read of some files. An obstacle shows when a file is written. -/
def viewOf (read : List (Text × Text)) : FileView :=
  { contents? := fun path => (read.find? (·.1 == path)).map Prod.snd
    obstacle? := fun _ => none }

end Main

end WaypointMap

open WaypointMap in
def main (args : List String) : IO UInt32 := do
  let invocation := Invocation.ofArguments (args.map Text.ofString)
  let mut files : List (Text × Text) := []
  for path in invocation.inputs do
    if let some contents ← Main.readFile? path then files := (path, contents) :: files
  let conclusion := invocation.run (Main.viewOf files)
  match conclusion with
  | .help => IO.print Main.usage
  | .misuse => IO.eprint Main.usage
  | .failed e => IO.eprintln e.message.toString
  | .finished t => Main.printTranscript t
  return conclusion.exitCode.toUInt32
