import WaypointMap.Json.File
import WaypointMap.Report

/-!
# Report files

A report file holds a JSON list of reports.
-/

namespace WaypointMap

namespace Report

def ofContents (file contents : Text) : Checked (List (Report Float)) := do
  match ← Json.ofContents contents with
  | .list items => ofList items
  | _ => throw (.notReportList file)

end Report

end WaypointMap
