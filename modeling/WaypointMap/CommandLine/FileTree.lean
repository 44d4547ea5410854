import WaypointMap.Error

/-!
# Files by name

How a path leads to a file. A path is a text that has bytes and no NUL among them. It is
followed part by part, and every part but the last has to lead to a directory, even if the next
one leads back.
-/

namespace WaypointMap

/-- Why a text is no path; none if it is one. -/
def PathFault.ofText? (t : Text) : Option PathFault :=
  match Unwritable.find? (fun c => c.isSurrogate && !c.isByte) t with
  | some u => some (.unwritable u)
  | none => if t.contains (CodePoint.char '\x00') then some .nul else none

/-- What an invocation can find out about files. -/
structure FileView where
  /-- The contents of a file; none if it cannot be read. -/
  contents? : Text → Option Text
  /-- Why a file cannot be written; none if it can. -/
  obstacle? : Text → Option FileObstacle

/-- Files by their places, which are the names of the directories they lie in and their own
name, and the directory from which paths start. All directories hold files or the start. -/
structure FileTree where
  home : List Text
  files : List (List Text × Text)

namespace FileTree

/-- What lies at a place. -/
inductive Entry where
  | file (contents : Text)
  | directory
  | nothing

def isDirectory (t : FileTree) (place : List Text) : Bool :=
  place.isPrefixOf t.home || t.files.any fun file => place.isPrefixOf file.1 && place != file.1

def entry (t : FileTree) (place : List Text) : Entry :=
  match t.files.find? (·.1 == place) with
  | some file => .file file.2
  | none => if t.isDirectory place then .directory else .nothing

/-- How many bytes a name may have. -/
def nameLimit : Nat := 255

/-- How many bytes a path may have. -/
def pathLimit : Nat := 4095

/-- Where a part of a path leads from a directory. -/
def follow (place : List Text) (part : Text) : List Text :=
  if part = [] || part = .ofString "." then place
  else if part = .ofString ".." then place.dropLast
  else place ++ [part]

/-- Where the parts of a path lead from a place. -/
def walk (t : FileTree) (place : List Text) : List Text → Except FileObstacle (List Text)
  | [] => .ok place
  | part :: rest =>
    match t.entry place with
    | .file _ => .error .notDirectory
    | .nothing => .error .missing
    | .directory =>
      if nameLimit < Text.byteCount part then .error .nameTooLong
      else walk t (follow place part) rest

def locate (t : FileTree) (path : Text) : Except FileObstacle (List Text) :=
  if pathLimit < Text.byteCount path then .error .nameTooLong
  else
    let start := if path.head? = some (.char '/') then [] else t.home
    t.walk start (path.splitOn (.char '/'))

def contents? (t : FileTree) (path : Text) : Option Text :=
  match t.locate path with
  | .error _ => none
  | .ok place =>
    match t.entry place with
    | .file contents => some contents
    | _ => none

/-- Why no file can be written under a path. -/
def obstacle? (t : FileTree) (path : Text) : Option FileObstacle :=
  match t.locate path with
  | .error o => some o
  | .ok place =>
    match t.entry place with
    | .directory => some .isDirectory
    | _ => none

/-- The files that become new below the start when a file is written, by their names there. -/
def newFiles (t : FileTree) (path : Text) : List Text :=
  match t.locate path with
  | .error _ => []
  | .ok place =>
    match t.entry place with
    | .nothing =>
      if t.home.isPrefixOf place then
        [[CodePoint.char '/'].intercalate (place.drop t.home.length)]
      else []
    | _ => []

def view (t : FileTree) : FileView := ⟨t.contents?, t.obstacle?⟩

end FileTree

end WaypointMap
