import WaypointMap.Console.Emoji
import WaypointMap.Console.Layout
import WaypointMap.Console.Markup

/-!
# Consoles

What a console shows for a marked-up text: the plain parts with their emoji, laid out in lines.
-/

namespace WaypointMap

namespace Console

/-- Whether a code point moves the cursor of a console, or rings its bell, and is left out. -/
def isControl (c : CodePoint) : Bool :=
  let n := c.value
  n == 0x07 || n == 0x08 || n == 0x0B || n == 0x0C || n == 0x0D

def lines (t : Text) : Except Markup.Problem (List Text) := do
  let parts ← Markup.parts t
  return layout ((parts.flatMap Emoji.replace).filter (!isControl ·))

end Console

end WaypointMap
