import WaypointMap.Error

/-!
# Members

What a value holds when it is gone through one by one.
-/

namespace WaypointMap

namespace Json

/-- The members of a value: the items of a list, the code points of a text, the keys of an
object. Other values have none to go through. -/
def members : Json → Checked (List Json)
  | list items => .ok items
  | text t => .ok (t.map fun c => text [c])
  | object entries => .ok (entries.map fun entry => text entry.1)
  | v => .error (.notIterable v.kind)

end Json

end WaypointMap
