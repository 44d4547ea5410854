import WaypointMap.Error
import WaypointMap.Text.Newline

/-!
# JSON from outside

Values that arrive as text, alone or as the contents of a file.
-/

namespace WaypointMap

namespace Json

def ofText (t : Text) : Checked Json :=
  match parse t with
  | .ok v => .ok v
  | .error reason => .error (.unreadable reason)

/-- Reads the contents of a file as a value. -/
def ofContents (contents : Text) : Checked Json := ofText contents.unifyLineEnds

end Json

end WaypointMap
