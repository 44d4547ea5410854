import WaypointMap.Config
import WaypointMap.Json.File

/-!
# Settings files

A settings file holds a JSON object of settings.
-/

namespace WaypointMap

namespace Config

/-- The entries of a settings file. -/
def entriesOfContents (file contents : Text) : Checked (List (Text × Json)) := do
  match ← Json.ofContents contents with
  | .object entries => return entries
  | _ => throw (.notSettingsFile file)

end Config

end WaypointMap
