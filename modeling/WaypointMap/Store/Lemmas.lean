import WaypointMap.Store

/-!
# Reading a store after writing it

One equation for each way to write a store and each way to read it. Every change keeps the
number of waypoints, but for `push`, which adds one at the end.
-/

namespace WaypointMap

namespace Store

variable {K : Type}

@[ext] theorem ext {s t : Store K} (h : ∀ i : Nat, s.waypoints[i]? = t.waypoints[i]?) :
    s = t := by
  cases s
  cases t
  congr
  exact Array.ext_getElem? h

@[simp] theorem size_empty : (empty : Store K).size = 0 := rfl

@[simp] theorem size_adjust (s : Store K) (i : Nat) (f : Waypoint K → Waypoint K) :
    (s.adjust i f).size = s.size := by
  simp [adjust, size]

@[simp] theorem size_setLink (s : Store K) (i : Nat) (h : Heading) (l : Link) :
    (s.setLink i h l).size = s.size :=
  size_adjust s i _

@[simp] theorem size_moveTo (s : Store K) (i : Nat) (x y : K) :
    (s.moveTo i x y).size = s.size :=
  size_adjust s i _

@[simp] theorem size_push (s : Store K) (x y : K) (blocked : Compass Bool) (hasObject : Bool) :
    (s.push x y blocked hasObject).size = s.size + 1 := by
  simp [push, size]

theorem getElem?_adjust (s : Store K) (i : Nat) (f : Waypoint K → Waypoint K) (j : Nat) :
    (s.adjust i f).waypoints[j]? =
      if i = j then s.waypoints[j]?.map f else s.waypoints[j]? := by
  simp [adjust, Array.getElem?_modify]

theorem getElem?_push (s : Store K) (x y : K) (blocked : Compass Bool) (hasObject : Bool)
    (j : Nat) :
    (s.push x y blocked hasObject).waypoints[j]? =
      if j = s.size then
        some ⟨s.size, x, y, blocked.map Link.ofFlag, hasObject⟩
      else s.waypoints[j]? := by
  simp only [push, Array.getElem?_push]
  rfl

/-- A link that was set is read back; all other links stay. -/
theorem link_setLink (s : Store K) (i : Nat) (h : Heading) (l : Link) (j : Nat) (k : Heading) :
    (s.setLink i h l).link j k =
      if i = j ∧ h = k then (s.link j k).map fun _ => l else s.link j k := by
  simp only [link, setLink, getElem?_adjust]
  by_cases hi : i = j <;> by_cases hk : h = k <;>
    simp [hi, hk, Waypoint.setLink, Function.comp_def]

@[simp] theorem link_moveTo (s : Store K) (i : Nat) (x y : K) (j : Nat) (k : Heading) :
    (s.moveTo i x y).link j k = s.link j k := by
  simp only [link, moveTo, getElem?_adjust]
  by_cases hi : i = j <;> simp [hi, Function.comp_def]

/-- A new waypoint has the links of its flags; all other links stay. -/
theorem link_push (s : Store K) (x y : K) (blocked : Compass Bool) (hasObject : Bool) (j : Nat)
    (k : Heading) :
    (s.push x y blocked hasObject).link j k =
      if j = s.size then some (.ofFlag (blocked.get k))
      else s.link j k := by
  simp only [link, getElem?_push]
  by_cases hj : j = s.size <;> simp [hj]

theorem resolve?_eq_some_iff {s : Store K} {id : Json} {i : Nat} :
    s.resolve? id = some i ↔ id = .int i ∧ i < s.size := by
  constructor
  · intro h
    unfold resolve? at h
    split at h
    · split at h
      · cases h; exact ⟨rfl, by assumption⟩
      · cases h
    · cases h
  · rintro ⟨rfl, hi⟩
    simp only [resolve?]
    exact if_pos hi

theorem resolve_eq_ok_iff {s : Store K} {id : Json} {i : Nat} :
    s.resolve id = .ok i ↔ id = .int i ∧ i < s.size := by
  rw [← resolve?_eq_some_iff]
  unfold resolve
  split
  · next j hj => simp [hj]
  · next hj => simp [hj]

end Store

end WaypointMap
