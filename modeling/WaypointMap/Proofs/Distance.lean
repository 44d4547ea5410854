import WaypointMap.Proofs.Double.Difference
import WaypointMap.Proofs.Scalar

/-!
# Laws of squared distances

What proofs about spots use of the arithmetic of coordinates, beyond the order. Between finite
spots a squared distance is a number, though it may be infinite. It is zero from a spot to
itself, and the same in both directions.
-/

namespace WaypointMap

open Scalar

/-- Scalars whose differences and squares behave as those of doubles. -/
class LawfulDistance (K : Type) [Scalar K] : Prop extends LawfulScalar K where
  isNaN_sub {a b : K} : isFinite a = true → isFinite b = true → isNaN (a - b) = false
  isNaN_square {a : K} : isNaN a = false → isNaN (square a) = false
  /-- Numbers that are not below zero have a sum. -/
  isNaN_add {a b : K} : isNaN a = false → isNaN b = false → ¬ a < 0.0 → ¬ b < 0.0 →
    isNaN (a + b) = false
  sub_self {a : K} : isFinite a = true → a - a = 0.0
  square_zero : square (0.0 : K) = 0.0
  zero_add_zero : (0.0 : K) + 0.0 = 0.0
  square_sub_comm (a b : K) : square (a - b) = square (b - a)

section Double

open Double

instance : LawfulDistance Float where
  isNaN_sub finite finite' := (isNaN_eq_false_iff _).2 (exists_place_sub finite finite')
  isNaN_square := by
    intro x number
    obtain ⟨a, ha⟩ := (isNaN_eq_false_iff x).1 number
    exact (isNaN_eq_false_iff (x * x)).2 ⟨_, place?_mul_self ha⟩
  isNaN_add := by
    intro x y number number' nonneg nonneg'
    obtain ⟨a, ha⟩ := (isNaN_eq_false_iff x).1 number
    obtain ⟨b, hb⟩ := (isNaN_eq_false_iff y).1 number'
    have above : ∀ {z : Float} {c : Int}, place? z = some c → ¬ z < 0.0 → 0 ≤ c := by
      intro z c hc nonneg
      by_contra neg
      exact nonneg ((lt_iff z 0.0).2 ⟨c, 0, hc, place?_zero, by omega⟩)
    exact (isNaN_eq_false_iff (x + y)).2
      (exists_place_add ha hb (above ha nonneg) (above hb nonneg'))
  sub_self := double_sub_self
  square_zero := rfl
  zero_add_zero := rfl
  square_sub_comm := double_square_sub_comm

end Double

instance : LawfulDistance Rat where
  isNaN_sub _ _ := rfl
  isNaN_square _ := rfl
  isNaN_add _ _ _ _ := rfl
  sub_self := by
    intro a _
    rw [zero_point_zero]
    exact sub_self a
  square_zero := by
    rw [zero_point_zero]
    exact mul_zero 0
  zero_add_zero := by
    rw [zero_point_zero]
    exact add_zero 0
  square_sub_comm a b := by
    unfold square
    ring

/-- Scalars with which a difference to something finite, or a square, is a number exactly where
they are numbers. -/
class LawfulNumber (K : Type) [Scalar K] : Prop extends LawfulDistance K where
  isNaN_sub_iff {a b : K} : isFinite b = true → (isNaN (a - b) = false ↔ isNaN a = false)
  isNaN_of_square {a : K} : isNaN (square a) = false → isNaN a = false

open Double in
instance : LawfulNumber Float where
  isNaN_sub_iff := by
    intro x y finite
    constructor
    · intro number
      exact (isNaN_eq_false_iff x).2 (exists_place_of_sub ((isNaN_eq_false_iff (x - y)).1 number))
    · intro number
      obtain ⟨a, ha⟩ := (isNaN_eq_false_iff x).1 number
      exact (isNaN_eq_false_iff (x - y)).2 (exists_place_sub_of_isFinite ha finite)
  isNaN_of_square := by
    intro x number
    obtain ⟨b, hb⟩ := (isNaN_eq_false_iff (x * x)).1 number
    cases hx : place? x with
    | none => cases (place?_mul_self_of_none hx).symm.trans hb
    | some a => exact (isNaN_eq_false_iff x).2 ⟨a, hx⟩

instance : LawfulNumber Rat where
  isNaN_sub_iff _ := Iff.rfl
  isNaN_of_square _ := rfl

namespace Waypoint

variable {K : Type} [Scalar K]

/-- Whether the coordinates of a waypoint are numbers. -/
def IsNumber (w : Waypoint K) : Prop := isNaN w.x = false ∧ isNaN w.y = false

instance (w : Waypoint K) : Decidable w.IsNumber := inferInstanceAs (Decidable (_ ∧ _))

/-- Whether the coordinates of a waypoint are finite. -/
def IsFinite (w : Waypoint K) : Prop := isFinite w.x = true ∧ isFinite w.y = true

instance (w : Waypoint K) : Decidable w.IsFinite := inferInstanceAs (Decidable (_ ∧ _))

/-- To a finite spot, the squared distance is a number exactly where the waypoint is one. -/
theorem isNaN_squaredDistanceTo_iff [LawfulNumber K] {w : Waypoint K} {x y : K}
    (hx : isFinite x = true) (hy : isFinite y = true) :
    isNaN (w.squaredDistanceTo x y) = false ↔ w.IsNumber := by
  unfold IsNumber
  rw [← LawfulNumber.isNaN_sub_iff (a := w.x) hx, ← LawfulNumber.isNaN_sub_iff (a := w.y) hy,
    squaredDistanceTo]
  constructor
  · intro number
    obtain ⟨left, right⟩ := LawfulScalar.isNaN_of_add number
    exact ⟨LawfulNumber.isNaN_of_square left, LawfulNumber.isNaN_of_square right⟩
  · rintro ⟨left, right⟩
    exact LawfulDistance.isNaN_add (LawfulDistance.isNaN_square left)
      (LawfulDistance.isNaN_square right) (LawfulScalar.not_square_lt_zero _)
      (LawfulScalar.not_square_lt_zero _)

variable [LawfulDistance K]

theorem isNaN_squaredDistanceTo {w : Waypoint K} (hw : w.IsFinite) {x y : K}
    (hx : isFinite x = true) (hy : isFinite y = true) :
    isNaN (w.squaredDistanceTo x y) = false :=
  LawfulDistance.isNaN_add
    (LawfulDistance.isNaN_square (LawfulDistance.isNaN_sub hw.1 hx))
    (LawfulDistance.isNaN_square (LawfulDistance.isNaN_sub hw.2 hy))
    (LawfulScalar.not_square_lt_zero _) (LawfulScalar.not_square_lt_zero _)

theorem squaredDistanceTo_self {w : Waypoint K} (hw : w.IsFinite) :
    w.squaredDistanceTo w.x w.y = 0.0 := by
  rw [squaredDistanceTo, LawfulDistance.sub_self hw.1, LawfulDistance.sub_self hw.2,
    LawfulDistance.square_zero, LawfulDistance.zero_add_zero]

theorem squaredDistanceTo_comm (w v : Waypoint K) :
    w.squaredDistanceTo v.x v.y = v.squaredDistanceTo w.x w.y := by
  rw [squaredDistanceTo, squaredDistanceTo, LawfulDistance.square_sub_comm w.x,
    LawfulDistance.square_sub_comm w.y]

end Waypoint

end WaypointMap
