import WaypointMap.Text

/-!
# Line ends

Files may end their lines in three ways; readers see one.
-/

namespace WaypointMap

namespace Text

/-- Replaces each carriage return, and a line feed right after it, by one line feed. -/
def unifyLineEnds : Text → Text
  | [] => []
  | .char '\r' :: .char '\n' :: rest => .char '\n' :: unifyLineEnds rest
  | .char '\r' :: rest => .char '\n' :: unifyLineEnds rest
  | c :: rest => c :: unifyLineEnds rest

end Text

end WaypointMap
