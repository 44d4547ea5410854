import WaypointMap.Heading

/-!
# One value for each heading

The links of a waypoint and the blocked flags of a report are of this shape.
-/

namespace WaypointMap

/-- A value for each heading. -/
structure Compass (α : Type) where
  north : α
  east : α
  south : α
  west : α
  deriving DecidableEq

namespace Compass

variable {α β : Type}

def replicate (a : α) : Compass α := ⟨a, a, a, a⟩

def get (c : Compass α) : Heading → α
  | .north => c.north
  | .east => c.east
  | .south => c.south
  | .west => c.west

def set (c : Compass α) (h : Heading) (a : α) : Compass α :=
  match h with
  | .north => { c with north := a }
  | .east => { c with east := a }
  | .south => { c with south := a }
  | .west => { c with west := a }

def map (f : α → β) (c : Compass α) : Compass β :=
  ⟨f c.north, f c.east, f c.south, f c.west⟩

/-- The values clockwise from north. -/
def toList (c : Compass α) : List α := [c.north, c.east, c.south, c.west]

@[simp] theorem get_set (c : Compass α) (h k : Heading) (a : α) :
    (c.set h a).get k = if h = k then a else c.get k := by
  cases h <;> cases k <;> rfl

@[simp] theorem get_replicate (a : α) (h : Heading) : (replicate a).get h = a := by
  cases h <;> rfl

@[simp] theorem get_map (f : α → β) (c : Compass α) (h : Heading) :
    (c.map f).get h = f (c.get h) := by
  cases h <;> rfl

theorem ext_get {c d : Compass α} (h : ∀ k, c.get k = d.get k) : c = d := by
  obtain ⟨n, e, s, w⟩ := c
  obtain rfl : n = _ := h .north
  obtain rfl : e = _ := h .east
  obtain rfl : s = _ := h .south
  obtain rfl : w = _ := h .west
  rfl

theorem mem_toList_iff {c : Compass α} {a : α} : a ∈ c.toList ↔ ∃ h, c.get h = a := by
  constructor
  · intro ha
    simp only [toList, List.mem_cons, List.not_mem_nil, or_false] at ha
    rcases ha with rfl | rfl | rfl | rfl
    · exact ⟨.north, rfl⟩
    · exact ⟨.east, rfl⟩
    · exact ⟨.south, rfl⟩
    · exact ⟨.west, rfl⟩
  · rintro ⟨h, rfl⟩
    cases h <;> simp [toList, get]

end Compass

/-- The blocked flags that a value stands for: anything with four members, taken in order
for north, east, south and west. The members of an object are its keys. -/
def blockedFlags (v : Json) : Checked (Compass Bool) :=
  let ofList : List Bool → Checked (Compass Bool)
    | [n, e, s, w] => .ok ⟨n, e, s, w⟩
    | flags => .error (.flagCount flags.length)
  match v with
  | .list items => ofList (items.map Json.truth)
  | .text t => ofList (t.map fun _ => true)
  | .object entries => ofList (entries.map fun entry => !entry.1.isEmpty)
  | _ => .error (.uncountable v.kind)

end WaypointMap
