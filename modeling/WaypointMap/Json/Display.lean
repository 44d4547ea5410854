import WaypointMap.Json
import WaypointMap.Number.Written
import WaypointMap.Text.Quoted

/-!
# Values in messages

How a message shows the value it complains about: texts quoted, numbers as written
elsewhere, lists and objects in brackets in their own order.
-/

namespace WaypointMap

namespace Json

mutual

/-- A value as messages show it. -/
def display : Json → String
  | null => "None"
  | bool b => if b then "True" else "False"
  | int n => toString n
  | decimal x => shortestText x
  | text t => t.quoted
  | list items => "[" ++ ", ".intercalate (displayItems items) ++ "]"
  | object entries => "\x7b" ++ ", ".intercalate (displayEntries entries) ++ "\x7d"

def displayItems : List Json → List String
  | [] => []
  | v :: rest => v.display :: displayItems rest

def displayEntries : List (Text × Json) → List String
  | [] => []
  | (key, v) :: rest => (key.quoted ++ ": " ++ v.display) :: displayEntries rest

end

/-- A value as a plain text: a text stands for itself, everything else is displayed. -/
def plainText : Json → Text
  | text t => t
  | v => .ofString v.display

end Json

end WaypointMap
