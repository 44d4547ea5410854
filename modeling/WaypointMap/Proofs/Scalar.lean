import WaypointMap.Proofs.Double.Square
import WaypointMap.Waypoint

/-!
# Laws of scalars

What proofs about maps use of the arithmetic of coordinates. Doubles have these laws, special
values and rounding included, and so have the rationals.
-/

namespace WaypointMap

open Scalar

/-- Scalars with the laws of doubles. -/
class LawfulScalar (K : Type) [Scalar K] : Prop where
  isFinite_zero : isFinite (0.0 : K) = true
  isNaN_of_isFinite {a : K} : isFinite a = true → isNaN a = false
  isNaN_of_lt {a b : K} : a < b → isNaN a = false ∧ isNaN b = false
  lt_asymm {a b : K} : a < b → ¬ b < a
  /-- Of two numbers in order, a third is above the one or below the other. -/
  lt_or_lt {a b c : K} : a < c → isNaN b = false → a < b ∨ b < c
  isFinite_of_lt {a b : K} : a < b → ¬ a < 0.0 → isFinite b = true → isFinite a = true
  isNaN_of_add {a b : K} : isNaN (a + b) = false → isNaN a = false ∧ isNaN b = false
  isFinite_of_add {a b : K} : isFinite (a + b) = true → isFinite a = true ∧ isFinite b = true
  not_add_lt {a b : K} : ¬ b < 0.0 → ¬ a + b < a
  not_add_lt_add {a b : K} (c : K) : ¬ b < a → ¬ b + c < a + c
  not_square_lt_zero (a : K) : ¬ square a < 0.0
  not_secondPower_lt_zero (a : K) : ¬ secondPower a < 0.0

section Order

variable {K : Type} [Scalar K] [LawfulScalar K] {a b c : K}

theorem LawfulScalar.lt_trans (hab : a < b) (hbc : b < c) : a < c := by
  obtain ⟨number, -⟩ := isNaN_of_lt hab
  rcases lt_or_lt hbc number with hba | hac
  · exact absurd hba (lt_asymm hab)
  · exact hac

theorem LawfulScalar.not_lt_trans (hb : Scalar.isNaN b = false) (hba : ¬ b < a)
    (hcb : ¬ c < b) : ¬ c < a := by
  intro hca
  rcases lt_or_lt hca hb with lt | lt
  · exact hcb lt
  · exact hba lt

theorem LawfulScalar.not_add_lt_zero (ha : ¬ a < 0.0) (hb : ¬ b < 0.0) : ¬ a + b < 0.0 := by
  intro lt
  obtain ⟨number, -⟩ := isNaN_of_lt lt
  obtain ⟨number, -⟩ := isNaN_of_add number
  rcases lt_or_lt lt number with lt | lt
  · exact not_add_lt hb lt
  · exact ha lt

theorem Waypoint.not_squaredDistanceTo_lt_zero (w : Waypoint K) (x y : K) :
    ¬ w.squaredDistanceTo x y < 0.0 :=
  LawfulScalar.not_add_lt_zero (LawfulScalar.not_square_lt_zero _)
    (LawfulScalar.not_square_lt_zero _)

end Order

section Double

open Double

theorem isNaN_eq_false_iff (x : Float) : Scalar.isNaN x = false ↔ ∃ a, place? x = some a := by
  rw [← Bool.not_eq_true, ← Option.ne_none_iff_exists']
  exact not_congr (isNaN_iff x)

theorem double_not_mul_self_lt_zero (x : Float) : ¬ x * x < 0.0 := by
  intro lt
  obtain ⟨a, z, ha, hz, lt⟩ := (lt_iff (x * x) 0.0).1 lt
  cases place?_zero.symm.trans hz
  cases hx : place? x with
  | none => cases (place?_mul_self_of_none hx).symm.trans ha
  | some b =>
    cases (place?_mul_self hx).symm.trans ha
    exact absurd lt (Int.natCast_nonneg _).not_gt

instance : LawfulScalar Float where
  isFinite_zero := (isFinite_double_iff 0.0).2 ⟨0, place?_zero, top_pos⟩
  isNaN_of_isFinite := by
    intro x finite
    obtain ⟨a, ha, -⟩ := (isFinite_double_iff x).1 finite
    exact (isNaN_eq_false_iff x).2 ⟨a, ha⟩
  isNaN_of_lt := by
    intro x y lt
    obtain ⟨a, b, ha, hb, -⟩ := (lt_iff x y).1 lt
    exact ⟨(isNaN_eq_false_iff x).2 ⟨a, ha⟩, (isNaN_eq_false_iff y).2 ⟨b, hb⟩⟩
  lt_asymm := by
    intro x y lt gt
    obtain ⟨a, b, ha, hb, lt⟩ := (lt_iff x y).1 lt
    obtain ⟨b', a', hb', ha', gt⟩ := (lt_iff y x).1 gt
    cases ha.symm.trans ha'
    cases hb.symm.trans hb'
    omega
  lt_or_lt := by
    intro x y z lt number
    obtain ⟨a, c, ha, hc, lt⟩ := (lt_iff x z).1 lt
    obtain ⟨b, hb⟩ := (isNaN_eq_false_iff y).1 number
    rcases lt_or_ge a b with below | above
    · exact .inl ((lt_iff x y).2 ⟨a, b, ha, hb, below⟩)
    · exact .inr ((lt_iff y z).2 ⟨b, c, hb, hc, by omega⟩)
  isFinite_of_lt := by
    intro x y lt nonneg finite
    obtain ⟨a, b, ha, hb, lt⟩ := (lt_iff x y).1 lt
    obtain ⟨b', hb', small⟩ := (isFinite_double_iff y).1 finite
    cases hb.symm.trans hb'
    have : ¬ a < 0 := fun neg => nonneg ((lt_iff x 0.0).2 ⟨a, 0, ha, place?_zero, neg⟩)
    exact (isFinite_double_iff x).2 ⟨a, ha, by omega⟩
  isNaN_of_add := by
    intro x y number
    obtain ⟨c, hc⟩ := (isNaN_eq_false_iff (x + y)).1 number
    obtain ⟨a, b, ha, hb, -⟩ := exists_place_of_add hc
    exact ⟨(isNaN_eq_false_iff x).2 ⟨a, ha⟩, (isNaN_eq_false_iff y).2 ⟨b, hb⟩⟩
  isFinite_of_add := by
    intro x y finite
    obtain ⟨c, hc, small⟩ := (isFinite_double_iff (x + y)).1 finite
    obtain ⟨a, b, ha, hb, sum⟩ := exists_place_of_add hc
    obtain ⟨small, small'⟩ := lt_top_of_sum? sum small
    exact ⟨(isFinite_double_iff x).2 ⟨a, ha, small⟩, (isFinite_double_iff y).2 ⟨b, hb, small'⟩⟩
  not_add_lt := by
    intro x y nonneg lt
    obtain ⟨c, a, hc, ha, lt⟩ := (lt_iff (x + y) x).1 lt
    obtain ⟨a', b, ha', hb, sum⟩ := exists_place_of_add hc
    cases ha.symm.trans ha'
    have : ¬ b < 0 := fun neg => nonneg ((lt_iff y 0.0).2 ⟨b, 0, hb, place?_zero, neg⟩)
    have := le_of_sum? ha (by omega) (natAbs_place_le hb) sum
    omega
  not_add_lt_add := by
    intro x y z le lt
    obtain ⟨q, p, hq, hp, lt⟩ := (lt_iff (y + z) (x + z)).1 lt
    obtain ⟨b, c, hb, hc, sum⟩ := exists_place_of_add hq
    obtain ⟨a, c', ha, hc', sum'⟩ := exists_place_of_add hp
    cases hc.symm.trans hc'
    have : ¬ b < a := fun lt => le ((lt_iff y x).2 ⟨b, a, hb, ha, lt⟩)
    have := sum?_mono (by omega) (natAbs_place_le ha) (natAbs_place_le hb) sum' sum
    omega
  not_square_lt_zero := double_not_mul_self_lt_zero
  not_secondPower_lt_zero := double_not_mul_self_lt_zero

end Double

theorem zero_point_zero : (0.0 : Rat) = 0 := by
  decide +kernel

theorem rat_not_mul_self_lt_zero (a : Rat) : ¬ a * a < 0.0 := by
  rw [zero_point_zero]
  exact not_lt.2 (mul_self_nonneg a)

instance : LawfulScalar Rat where
  isFinite_zero := rfl
  isNaN_of_isFinite _ := rfl
  isNaN_of_lt _ := ⟨rfl, rfl⟩
  lt_asymm h := h.asymm
  lt_or_lt := by
    intro a b c lt _
    rcases lt_or_ge a b with below | above
    · exact .inl below
    · exact .inr (above.trans_lt lt)
  isFinite_of_lt _ _ _ := rfl
  isNaN_of_add _ := ⟨rfl, rfl⟩
  isFinite_of_add _ := ⟨rfl, rfl⟩
  not_add_lt := by
    intro a b nonneg
    rw [zero_point_zero] at nonneg
    exact not_lt.2 (le_add_of_nonneg_right (not_lt.1 nonneg))
  not_add_lt_add := by
    intro a b c le
    exact not_lt.2 (add_le_add_left (not_lt.1 le) c)
  not_square_lt_zero := rat_not_mul_self_lt_zero
  not_secondPower_lt_zero := rat_not_mul_self_lt_zero

/-! ## Sums with zero -/

/-- Scalars in which zero takes nothing away from a sum. -/
class LawfulZero (K : Type) [Scalar K] : Prop extends LawfulScalar K where
  lt_zero_add {a b : K} : a < b → a < 0.0 + b

theorem LawfulZero.zero_lt_add {K : Type} [Scalar K] [LawfulZero K] {a b : K} (ha : ¬ a < 0.0)
    (hb : 0.0 < b) (number : isNaN (a + b) = false) : 0.0 < a + b := by
  rcases LawfulScalar.lt_or_lt hb number with above | below
  · exact above
  · exact absurd (lt_zero_add below) (LawfulScalar.not_add_lt_add b ha)

/-- Of two costs that add up to zero, neither is positive. -/
theorem LawfulZero.not_lt_of_add {K : Type} [Scalar K] [LawfulZero K] {a b : K} (ha : ¬ a < 0.0)
    (hb : ¬ b < 0.0) (number : isNaN (a + b) = false) (zero : ¬ 0.0 < a + b) :
    ¬ 0.0 < a ∧ ¬ 0.0 < b := by
  constructor
  · intro positive
    rcases LawfulScalar.lt_or_lt positive number with above | below
    · exact zero above
    · exact LawfulScalar.not_add_lt hb below
  · intro positive
    exact zero (zero_lt_add ha positive number)

open Double in
instance : LawfulZero Float where
  lt_zero_add := by
    intro x y lt
    obtain ⟨a, b, ha, hb, lt⟩ := (lt_iff x y).1 lt
    have sum : place? (0.0 + y) = some b := by
      rw [place?_add place?_zero hb, sum?, Int.natAbs_zero, if_pos top_pos, Int.zero_add]
      split
      next small => rw [nearest_place hb small]
      next => rfl
    exact (lt_iff x (0.0 + y)).2 ⟨a, b, ha, sum, lt⟩

instance : LawfulZero Rat where
  lt_zero_add := by
    intro a b lt
    rw [zero_point_zero, zero_add]
    exact lt

end WaypointMap
