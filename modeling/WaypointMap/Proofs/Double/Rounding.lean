import Mathlib

/-!
# Rounding of magnitudes

The finite doubles are multiples of the least one above zero. On magnitudes counted in that
unit, rounding to a double is a function of natural numbers: the leading 53 bits are kept, and
the rest is rounded to the nearest, a tie to the even neighbour. It is monotone, and leaves
alone what fits.
-/

namespace WaypointMap.Double

/-- The quotient by a power of two, rounded to the nearest; of two nearest the even one. -/
def nearestQuotient (n k : Nat) : Nat :=
  if 2 * (n % 2 ^ k) < 2 ^ k then n / 2 ^ k
  else if 2 * (n % 2 ^ k) = 2 ^ k then n / 2 ^ k + n / 2 ^ k % 2
  else n / 2 ^ k + 1

theorem div_le_nearestQuotient (n k : Nat) : n / 2 ^ k ≤ nearestQuotient n k := by
  unfold nearestQuotient
  split
  · exact le_rfl
  split
  · exact Nat.le_add_right _ _
  · exact Nat.le_add_right _ _

theorem nearestQuotient_le (n k : Nat) : nearestQuotient n k ≤ n / 2 ^ k + 1 := by
  unfold nearestQuotient
  split
  · exact Nat.le_add_right _ _
  split
  · have := Nat.mod_lt (n / 2 ^ k) (y := 2) (by decide)
    omega
  · exact le_rfl

theorem nearestQuotient_mono {n n' : Nat} (h : n ≤ n') (k : Nat) :
    nearestQuotient n k ≤ nearestQuotient n' k := by
  rcases (Nat.div_le_div_right (c := 2 ^ k) h).lt_or_eq with lt | eq
  · calc nearestQuotient n k ≤ n / 2 ^ k + 1 := nearestQuotient_le n k
      _ ≤ n' / 2 ^ k := lt
      _ ≤ nearestQuotient n' k := div_le_nearestQuotient n' k
  · -- In one interval between neighbours, the rests decide.
    have rest : n % 2 ^ k ≤ n' % 2 ^ k := by
      have hn := Nat.div_add_mod n (2 ^ k)
      have hn' := Nat.div_add_mod n' (2 ^ k)
      rw [eq] at hn
      omega
    have parity := Nat.mod_lt (n' / 2 ^ k) (y := 2) (by decide)
    simp only [nearestQuotient, eq]
    split_ifs <;> omega

theorem nearestQuotient_mul_two_pow (m k : Nat) : nearestQuotient (m * 2 ^ k) k = m := by
  have pos : 0 < 2 ^ k := Nat.two_pow_pos k
  simp [nearestQuotient, Nat.mul_div_cancel _ pos, pos]

/-- Scaling by a power of two commutes with rounding. -/
theorem nearestQuotient_scale (n k j : Nat) :
    nearestQuotient (n * 2 ^ j) (k + j) = nearestQuotient n k := by
  have pos : 0 < 2 ^ j := Nat.two_pow_pos j
  have quotient : n * 2 ^ j / 2 ^ (k + j) = n / 2 ^ k := by
    rw [pow_add, Nat.mul_div_mul_right _ _ pos]
  have rest : n * 2 ^ j % 2 ^ (k + j) = n % 2 ^ k * 2 ^ j := by
    rw [pow_add, Nat.mul_mod_mul_right]
  unfold nearestQuotient
  rw [quotient, rest, pow_add, ← Nat.mul_assoc]
  simp only [Nat.mul_lt_mul_right pos, Nat.mul_left_inj pos.ne']

/-- The number of bits of a magnitude that a double has no room for. -/
def surplus (n : Nat) : Nat := n.log2 - 52

theorem lt_two_pow_surplus (n : Nat) : n < 2 ^ (53 + surplus n) := by
  calc n < 2 ^ (n.log2 + 1) := Nat.lt_log2_self
    _ ≤ 2 ^ (53 + surplus n) := Nat.pow_le_pow_right (by decide) (by unfold surplus; omega)

theorem two_pow_surplus_le {n : Nat} (h : 0 < surplus n) : 2 ^ (52 + surplus n) ≤ n := by
  have hn : n ≠ 0 := by
    rintro rfl
    simp [surplus] at h
  calc 2 ^ (52 + surplus n) = 2 ^ n.log2 := by congr 1; unfold surplus at *; omega
    _ ≤ n := Nat.log2_self_le hn

theorem surplus_le_of_lt {n j : Nat} (h : n < 2 ^ (53 + j)) : surplus n ≤ j := by
  unfold surplus
  by_cases hn : n = 0
  · simp [hn]
  · have := (Nat.log2_lt hn).2 h
    omega

theorem surplus_mono {n n' : Nat} (h : n ≤ n') : surplus n ≤ surplus n' :=
  surplus_le_of_lt (h.trans_lt (lt_two_pow_surplus n'))

/-- A magnitude rounded to 53 bits. -/
def rounded (n : Nat) : Nat := nearestQuotient n (surplus n) * 2 ^ surplus n

theorem nearestQuotient_surplus_le (n : Nat) : nearestQuotient n (surplus n) ≤ 2 ^ 53 := by
  have below : n / 2 ^ surplus n < 2 ^ 53 := by
    rw [Nat.div_lt_iff_lt_mul (Nat.two_pow_pos _), ← pow_add]
    exact lt_two_pow_surplus n
  exact (nearestQuotient_le n _).trans below

theorem rounded_le (n : Nat) : rounded n ≤ 2 ^ (53 + surplus n) := by
  rw [pow_add]
  exact Nat.mul_le_mul_right _ (nearestQuotient_surplus_le n)

theorem two_pow_le_rounded {n : Nat} (h : 0 < surplus n) : 2 ^ (52 + surplus n) ≤ rounded n := by
  have above : 2 ^ 52 ≤ n / 2 ^ surplus n := by
    rw [Nat.le_div_iff_mul_le (Nat.two_pow_pos _), ← pow_add]
    exact two_pow_surplus_le h
  rw [pow_add]
  exact Nat.mul_le_mul_right _ (above.trans (div_le_nearestQuotient n _))

theorem rounded_mono {n n' : Nat} (h : n ≤ n') : rounded n ≤ rounded n' := by
  rcases (surplus_mono h).lt_or_eq with lt | eq
  · -- A power of two lies between the two magnitudes.
    calc rounded n ≤ 2 ^ (53 + surplus n) := rounded_le n
      _ ≤ 2 ^ (52 + surplus n') := Nat.pow_le_pow_right (by decide) (by omega)
      _ ≤ rounded n' := two_pow_le_rounded (by omega)
  · unfold rounded
    rw [eq]
    exact Nat.mul_le_mul_right _ (nearestQuotient_mono h _)

theorem rounded_of_dvd {n : Nat} (h : 2 ^ surplus n ∣ n) : rounded n = n := by
  unfold rounded
  generalize surplus n = k at h ⊢
  obtain ⟨c, rfl⟩ := h
  rw [Nat.mul_comm (2 ^ k) c, nearestQuotient_mul_two_pow]

/-- What has at most 53 bits up to a power of two is not rounded. -/
theorem rounded_of_lt {m : Nat} (hm : m < 2 ^ 53) (j : Nat) :
    rounded (m * 2 ^ j) = m * 2 ^ j := by
  have fits : surplus (m * 2 ^ j) ≤ j := by
    apply surplus_le_of_lt
    rw [pow_add]
    exact Nat.mul_lt_mul_of_pos_right hm (Nat.two_pow_pos j)
  exact rounded_of_dvd ((pow_dvd_pow 2 fits).trans (Dvd.intro_left m rfl))

theorem log2_scale {m : Nat} (hm : m ≠ 0) (j : Nat) : (m * 2 ^ j).log2 = m.log2 + j := by
  rw [Nat.log2_eq_iff (Nat.mul_ne_zero hm (Nat.two_pow_pos j).ne')]
  constructor
  · rw [pow_add]
    exact Nat.mul_le_mul_right _ (Nat.log2_self_le hm)
  · rw [Nat.add_right_comm, pow_add]
    exact Nat.mul_lt_mul_of_pos_right Nat.lt_log2_self (Nat.two_pow_pos j)

theorem surplus_scale {m : Nat} (hm : 52 ≤ m.log2) (j : Nat) :
    surplus (m * 2 ^ j) = surplus m + j := by
  have hm0 : m ≠ 0 := by
    rintro rfl
    simp at hm
  rw [surplus, surplus, log2_scale hm0]
  omega

theorem rounded_scale (m j : Nat) : rounded (m * 2 ^ j) = rounded m * 2 ^ j := by
  by_cases hm : m < 2 ^ 53
  · have self := rounded_of_lt hm 0
    rw [pow_zero, Nat.mul_one] at self
    rw [rounded_of_lt hm, self]
  · have hlog : 52 ≤ m.log2 := by
      rw [Nat.le_log2 (by omega)]
      omega
    rw [rounded, rounded, surplus_scale hlog, nearestQuotient_scale, pow_add, Nat.mul_assoc]

end WaypointMap.Double
