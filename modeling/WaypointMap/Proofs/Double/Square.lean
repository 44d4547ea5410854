import WaypointMap.Proofs.Double.Product

/-!
# Squares of doubles

The square of a small double is zero and that of a large one is infinite; powers of two bound what
lies between.
-/

namespace WaypointMap.Double

open Float.Model Float.Model.UnpackedFloat

/-- The place of the square of a double, from the size of its place, below infinity. -/
def squared (n : Nat) : Nat :=
  nearestQuotient (n * n) (dropped (n * n)) * 2 ^ (dropped (n * n) - 1074)

/-! ## Powers of two as bounds -/

section Bounds

variable {n k : Nat} (hk : 1074 ≤ k + k)

theorem two_pow_mul_self (k : Nat) : 2 ^ k * 2 ^ k = 2 ^ (k + k) := (pow_add 2 k k).symm

include hk

theorem squared_le (h : n ≤ 2 ^ k) : squared n ≤ 2 ^ (k + k - 1074) := by
  have product : n * n ≤ 2 ^ (k + k) := two_pow_mul_self k ▸ Nat.mul_le_mul h h
  have fits : dropped (n * n) ≤ k + k := by
    have surplus_le : surplus (n * n) ≤ k + k - 52 := surplus_le_of_lt <|
      product.trans_lt (Nat.pow_lt_pow_right (by decide) (by omega))
    unfold dropped
    omega
  have least : 1074 ≤ dropped (n * n) := le_max_left ..
  have whole : 2 ^ (k + k) = 2 ^ (k + k - dropped (n * n)) * 2 ^ dropped (n * n) := by
    rw [← pow_add, Nat.sub_add_cancel fits]
  have value : 2 ^ (k + k - dropped (n * n)) * 2 ^ (dropped (n * n) - 1074) =
      2 ^ (k + k - 1074) := by
    rw [← pow_add, Nat.sub_add_sub_cancel fits least]
  have mono := nearestQuotient_mono product (dropped (n * n))
  rw [whole, nearestQuotient_mul_two_pow] at mono
  rw [squared, ← value]
  exact Nat.mul_le_mul_right _ mono

theorem le_squared (h : 2 ^ k ≤ n) : 2 ^ (k + k - 1074) ≤ squared n := by
  have product : 2 ^ (k + k) ≤ n * n := two_pow_mul_self k ▸ Nat.mul_le_mul h h
  have least : 1074 ≤ dropped (n * n) := le_max_left ..
  unfold squared
  by_cases fits : dropped (n * n) ≤ k + k
  · have whole : 2 ^ (k + k - dropped (n * n)) * 2 ^ dropped (n * n) ≤ n * n := by
      rwa [← pow_add, Nat.sub_add_cancel fits]
    have quotient := (Nat.le_div_iff_mul_le (Nat.two_pow_pos _)).2 whole
    have value : 2 ^ (k + k - 1074) =
        2 ^ (k + k - dropped (n * n)) * 2 ^ (dropped (n * n) - 1074) := by
      rw [← pow_add, Nat.sub_add_sub_cancel fits least]
    rw [value]
    exact Nat.mul_le_mul_right _ (quotient.trans (div_le_nearestQuotient _ _))
  · have kept := two_pow_le_nearestQuotient_dropped (n := n * n) (by omega)
    calc 2 ^ (k + k - 1074) ≤ 2 ^ (dropped (n * n) - 1074) :=
          Nat.pow_le_pow_right (by decide) (by omega)
      _ ≤ nearestQuotient (n * n) (dropped (n * n)) * 2 ^ (dropped (n * n) - 1074) :=
          Nat.le_mul_of_pos_left _ ((Nat.two_pow_pos 52).trans_le kept)

end Bounds

/-! ## Places -/

theorem squared_zero : squared 0 = 0 := by
  simp [squared, nearestQuotient]

theorem top_eq {k : Nat} (hk : k = 53 + 2045) : top = 2 ^ k := by
  unfold top
  rw [hk, pow_add]

theorem two_pow_lt_top {j : Nat} (hj : j < 2098) : 2 ^ j < top := by
  obtain ⟨k, hk⟩ : ∃ k, k = 53 + 2045 := ⟨_, rfl⟩
  rw [top_eq hk]
  exact Nat.pow_lt_pow_right (by decide) (by omega)

theorem top_le_squared_top : top ≤ squared top := by
  obtain ⟨k, hk⟩ : ∃ k, k = 53 + 2045 := ⟨_, rfl⟩
  calc top = 2 ^ k := top_eq hk
    _ ≤ 2 ^ (k + k - 1074) := Nat.pow_le_pow_right (by decide) (by omega)
    _ ≤ squared top := le_squared (by omega) (top_eq hk).ge

theorem place?_mul_self_of_none {x : Float} (hx : place? x = none) : place? (x * x) = none := by
  unfold place? at hx
  change placeOf? (kept (UnpackedFloat.mul Format.binary64 x.toModel.unpack x.toModel.unpack)) = _
  generalize x.toModel.unpack = u at hx
  cases u with
  | notANumber => rfl
  | infinity s => cases hx
  | zero s => cases hx
  | finite s m e hm => cases hx

/-- The place of a square, from that of the number. -/
theorem place?_mul_self {x : Float} {a : Int} (ha : place? x = some a) :
    place? (x * x) = some (min (squared a.natAbs) top : Nat) := by
  have stored := stored_toModel x
  change placeOf? (kept (UnpackedFloat.mul Format.binary64 x.toModel.unpack x.toModel.unpack)) = _
  unfold place? at ha
  generalize x.toModel.unpack = u at ha stored
  cases u with
  | notANumber => cases ha
  | infinity s =>
    cases ha
    have sign : s * s = .positive := by cases s <;> rfl
    rw [natAbs_apply, min_eq_right top_le_squared_top]
    simp only [UnpackedFloat.mul, kept_infinity, placeOf?_infinity, sign]
    rfl
  | zero s =>
    cases ha
    rw [Int.natAbs_zero, squared_zero, Nat.zero_min]
    exact congrArg placeOf? (kept_zero _)
  | finite s m e hm =>
    obtain ⟨e, rfl, hc, -, -⟩ := stored.finite
    cases (placeOf?_finite s hm e).symm.trans ha
    have sign : s * s = .positive := by cases s <;> rfl
    simp only [UnpackedFloat.mul]
    rw [placeOf?_product hm hm hc hc, sign, natAbs_apply]
    rfl

end WaypointMap.Double
