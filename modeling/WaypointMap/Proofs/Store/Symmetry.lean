import Mathlib.Logic.Equiv.Defs
import WaypointMap.Event
import WaypointMap.Graph
import WaypointMap.Report
import WaypointMap.Store.Lemmas

/-!
# The headings are alike

A symmetry permutes the headings and keeps opposite headings opposite: a turn of the compass, or
a reflection. Placement knows no heading from another. Reports whose headings are turned by a
symmetry are answered and refused as before, and make the same map with its links turned.
-/

namespace WaypointMap

/-- A permutation of the headings that keeps opposite headings opposite. -/
structure Symmetry extends Equiv.Perm Heading where
  opposite : ∀ h, toFun h.opposite = (toFun h).opposite

namespace Symmetry

instance : CoeFun Symmetry fun _ => Heading → Heading := ⟨fun σ => σ.toFun⟩

variable (σ : Symmetry)

/-- The heading that a symmetry turns into another. -/
def back (h : Heading) : Heading := σ.invFun h

@[simp] theorem back_apply (h : Heading) : σ.back (σ h) = h := σ.left_inv h

@[simp] theorem apply_back (h : Heading) : σ (σ.back h) = h := σ.right_inv h

theorem apply_inj {h k : Heading} : σ h = σ k ↔ h = k :=
  σ.toEquiv.apply_eq_iff_eq

theorem apply_opposite (h : Heading) : (σ h).opposite = σ h.opposite := (σ.opposite h).symm

/-- A quarter turn, from north to east. -/
def clockwise : Symmetry where
  toFun
    | .north => .east
    | .east => .south
    | .south => .west
    | .west => .north
  invFun
    | .east => .north
    | .south => .east
    | .west => .south
    | .north => .west
  left_inv h := by cases h <;> rfl
  right_inv h := by cases h <;> rfl
  opposite h := by cases h <;> rfl

end Symmetry

/-! ## What is turned -/

section Turned

variable {α K : Type} (σ : Symmetry)

/-- The values of a compass, each moved from its heading to the one that it is turned into. -/
def Compass.turned (c : Compass α) : Compass α :=
  ⟨c.get (σ.back .north), c.get (σ.back .east), c.get (σ.back .south), c.get (σ.back .west)⟩

def Waypoint.turned (w : Waypoint K) : Waypoint K := { w with links := w.links.turned σ }

def Store.turned (s : Store K) : Store K := ⟨s.waypoints.map (·.turned σ)⟩

def Graph.turned (g : Graph K) : Graph K := { g with store := g.store.turned σ }

def Event.turned : Event K → Event K
  | created id x y heading origin => created id x y (σ heading) origin
  | replaced id heading former => replaced id (σ heading) former
  | e => e

/-- A report with its heading and its blocked flags turned. -/
def Report.turned : Report K → Report K
  | waypoint x y blocked origin heading =>
    waypoint x y (blocked.turned σ) origin (σ heading)
  | object origin x y heading => object origin x y (σ heading)

end Turned

namespace Compass

variable {α β : Type} (σ : Symmetry)

theorem get_turned_back (c : Compass α) (h : Heading) :
    (c.turned σ).get h = c.get (σ.back h) := by
  cases h <;> rfl

@[simp] theorem get_turned (c : Compass α) (h : Heading) : (c.turned σ).get (σ h) = c.get h := by
  rw [get_turned_back, σ.back_apply]

theorem turned_set (c : Compass α) (h : Heading) (a : α) :
    (c.set h a).turned σ = (c.turned σ).set (σ h) a := by
  refine ext_get fun k => ?_
  rw [get_turned_back, get_set, get_set, get_turned_back]
  have same : h = σ.back k ↔ σ h = k := by
    rw [← σ.apply_inj, σ.apply_back]
  simp only [same]

theorem turned_map (f : α → β) (c : Compass α) : (c.map f).turned σ = (c.turned σ).map f := by
  refine ext_get fun k => ?_
  rw [get_turned_back, get_map, get_map, get_turned_back]

theorem turned_replicate (a : α) : (replicate a).turned σ = replicate a := by
  refine ext_get fun k => ?_
  rw [get_turned_back, get_replicate, get_replicate]

end Compass

example : (⟨1, 2, 3, 4⟩ : Compass Nat).turned .clockwise = ⟨4, 1, 2, 3⟩ := by decide

/-! ## Reading and writing a turned store -/

namespace Store

variable {K : Type} (σ : Symmetry) (s : Store K)

@[simp] theorem size_turned : (s.turned σ).size = s.size := by
  simp [turned, size]

theorem getElem?_turned (i : Nat) :
    (s.turned σ).waypoints[i]? = s.waypoints[i]?.map (·.turned σ) := by
  simp [turned]

theorem turned_empty : (empty : Store K).turned σ = empty := by
  rw [turned, empty, Array.map_empty]

theorem resolve_turned (id : Json) : (s.turned σ).resolve id = s.resolve id := by
  unfold resolve resolve?
  simp only [size_turned]

theorem link_turned (i : Nat) (h : Heading) : (s.turned σ).link i (σ h) = s.link i h := by
  rw [link, link, getElem?_turned, Option.map_map]
  refine congrArg (fun f => Option.map f _) (funext fun w => ?_)
  exact Compass.get_turned σ w.links h

theorem adjust_turned (i : Nat) {f f' : Waypoint K → Waypoint K}
    (h : ∀ w, f' (w.turned σ) = (f w).turned σ) :
    (s.turned σ).adjust i f' = (s.adjust i f).turned σ := by
  ext j : 1
  rw [getElem?_adjust, getElem?_turned, getElem?_turned, getElem?_adjust]
  split
  · rw [Option.map_map, Option.map_map]
    exact congrArg (fun g => Option.map g _) (funext h)
  · rfl

theorem setLink_turned (i : Nat) (h : Heading) (l : Link) :
    (s.turned σ).setLink i (σ h) l = (s.setLink i h l).turned σ := by
  refine adjust_turned σ s i fun w => ?_
  rw [Waypoint.setLink, Waypoint.setLink, Waypoint.turned, Waypoint.turned, Compass.turned_set]

theorem push_turned (x y : K) (blocked : Compass Bool) (hasObject : Bool) :
    (s.turned σ).push x y (blocked.turned σ) hasObject =
      (s.push x y blocked hasObject).turned σ := by
  ext j : 1
  rw [getElem?_push, getElem?_turned, getElem?_turned, getElem?_push, size_turned]
  split
  · rw [Option.map_some, Waypoint.turned, Compass.turned_map]
  · rfl

theorem isObject_turned : (s.turned σ).isObject = s.isObject := by
  funext i
  rw [isObject, isObject, getElem?_turned, Option.map_map]
  rfl

variable [Scalar K]

theorem squaredDistances_turned (x y : K) :
    (s.turned σ).squaredDistances x y = s.squaredDistances x y := by
  rw [squaredDistances, squaredDistances, turned, Array.toList_map, List.map_map]
  rfl

theorem nearby_turned (x y : Checked K) (threshold : K) :
    (s.turned σ).nearby x y threshold = s.nearby x y threshold := by
  unfold nearby nearestBelow nearest?
  simp only [size_turned, squaredDistances_turned]

theorem nearbyObject_turned (x y : Checked K) (threshold : K) :
    (s.turned σ).nearbyObject x y threshold = s.nearbyObject x y threshold := by
  unfold nearbyObject
  rw [nearby_turned, isObject_turned]

theorem mergePosition_turned (config : Config K) (i : Nat) (x y : K) :
    mergePosition config i x y (s.turned σ) = (mergePosition config i x y s).turned σ := by
  unfold mergePosition
  split
  · exact adjust_turned σ s i fun _ => rfl
  · rfl

end Store

end WaypointMap
