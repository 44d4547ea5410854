import WaypointMap.Proofs.Double.Rounding

/-!
# Rounding of unpacked doubles

How the arithmetic of doubles rounds, told by magnitudes. A mantissa and an exponent are
canonical when they are those of a double; the exponent is counted from the least one.
-/

namespace WaypointMap.Double

open Float.Model Float.Model.UnpackedFloat

/-! ## Shifted mantissas -/

/-- The bits that a shift leaves behind tell how the rest compares with one half. -/
structure Shifted (em : ExtendedMantissa) (m k : Nat) : Prop where
  mantissa : em.mantissa = m / 2 ^ k
  roundBit : em.roundBit = true ↔ 2 ^ k ≤ 2 * (m % 2 ^ k)
  stickyBit : em.stickyBit = true ↔ m % 2 ^ k ≠ 0 ∧ 2 * (m % 2 ^ k) ≠ 2 ^ k

theorem Shifted.exact (m : Nat) :
    Shifted (ExtendedMantissa.ofMantissaAndAccuracy m .exact) m 0 := by
  constructor <;> simp [ExtendedMantissa.ofMantissaAndAccuracy, Nat.mod_one]

theorem Shifted.shiftRightOne {em : ExtendedMantissa} {m k : Nat} (h : Shifted em m k) :
    Shifted em.shiftRightOne m (k + 1) := by
  have pos : 0 < 2 ^ k := Nat.two_pow_pos k
  have double : 2 ^ (k + 1) = 2 ^ k * 2 := pow_succ 2 k
  have rest : m % (2 ^ k * 2) = m % 2 ^ k + 2 ^ k * (m / 2 ^ k % 2) := Nat.mod_mul
  have below : m % 2 ^ k < 2 ^ k := Nat.mod_lt _ pos
  have bit : m / 2 ^ k % 2 = 0 ∨ m / 2 ^ k % 2 = 1 := by omega
  constructor
  · simp only [ExtendedMantissa.shiftRightOne, h.mantissa, Nat.div_div_eq_div_mul, double]
  · simp only [ExtendedMantissa.shiftRightOne, h.mantissa, bne_iff_ne, double, rest]
    rcases bit with bit | bit <;> rw [bit] <;> omega
  · simp only [ExtendedMantissa.shiftRightOne, Bool.or_eq_true, h.roundBit, h.stickyBit, double,
      rest]
    rcases bit with bit | bit <;> rw [bit] <;> omega

theorem Shifted.shiftRight (m k : Nat) :
    Shifted (ExtendedMantissa.ofMantissaAndAccuracy m .exact >>> k) m k := by
  induction k with
  | zero => exact Shifted.exact m
  | succ k ih => exact ih.shiftRightOne

theorem Shifted.roundedMantissa {em : ExtendedMantissa} {m k : Nat} (h : Shifted em m k) :
    em.roundedMantissa = nearestQuotient m k := by
  obtain ⟨q, r, t⟩ := em
  obtain ⟨hq, hr, ht⟩ := h
  simp only at hq hr ht
  subst hq
  cases r <;> cases t <;>
    simp only [ExtendedMantissa.roundedMantissa, ExtendedMantissa.accuracy,
      Accuracy.roundToNearestEven, nearestQuotient, Bool.false_eq_true, true_iff, false_iff] at *
  · rw [if_pos (by omega)]
  · rw [if_pos (by omega)]
  · rw [if_neg (by omega), if_pos (by omega)]
  · rw [if_neg (by omega), if_neg (by omega)]

/-! ## Rounding to a canonical form -/

/-- The exponent of a double, from its distance to the least exponent. -/
def exponent (e : Nat) : Int := e - 1074

/-- Whether a mantissa and an exponent are in the form that doubles are stored in. -/
def Canonical (m e : Nat) : Prop := m < 2 ^ 53 ∧ (2 ^ 52 ≤ m ∨ e = 0)

theorem exponent_add (e k : Nat) : exponent (e + k) = exponent e + k := by
  unfold exponent
  omega

theorem toNat_exponent_sub (e t : Nat) : (exponent e - exponent t).toNat = e - t := by
  unfold exponent
  omega

theorem targetExponent_eq (m e : Nat) :
    Format.binary64.targetExponent (totalExponent m (exponent e)) =
      exponent (m.log2 + e - 52) := by
  simp only [Format.targetExponent, totalExponent, Format.mantissaBits, Format.minExponent,
    exponent]
  omega

theorem shiftToTargetExponent_exact (m e : Nat) :
    shiftToTargetExponent Format.binary64 m (exponent e) .exact =
      (ExtendedMantissa.ofMantissaAndAccuracy m .exact >>> surplus m,
        exponent (e + surplus m)) := by
  have shift : m.log2 + e - 52 - e = surplus m := by
    unfold surplus
    omega
  simp only [shiftToTargetExponent, shiftToExponent]
  rw [targetExponent_eq, toNat_exponent_sub, shift, exponent_add]

theorem decreaseExponent_eq (m e t : Nat) :
    decreaseExponent m (exponent e) (exponent t) =
      (m * 2 ^ (e - t), exponent (e - (e - t))) := by
  have shifted : exponent e - ((e - t : Nat) : Int) = exponent (e - (e - t)) := by
    unfold exponent
    omega
  simp only [decreaseExponent]
  rw [toNat_exponent_sub, Nat.shiftLeft_eq, shifted]

/-- A mantissa that was rounded up to one bit more gives that bit to its exponent. -/
theorem carried {r : Nat} (hr : r ≤ 2 ^ 53) :
    r / 2 ^ surplus r * 2 ^ surplus r = r ∧ r / 2 ^ surplus r < 2 ^ 53 ∧
      (2 ^ 52 ≤ r → 2 ^ 52 ≤ r / 2 ^ surplus r) := by
  rcases hr.lt_or_eq with lt | rfl
  · have none : surplus r = 0 := Nat.le_zero.1 (surplus_le_of_lt (j := 0) lt)
    rw [none, pow_zero, Nat.div_one, Nat.mul_one]
    exact ⟨rfl, lt, fun h => h⟩
  · have one : surplus (2 ^ 53) = 1 := by rw [surplus, Nat.log2_two_pow]
    rw [one]
    decide

theorem two_pow_surplus_le_self {n : Nat} (hn : 0 < n) : 2 ^ surplus n ≤ n := by
  rcases Nat.eq_zero_or_pos (surplus n) with none | some
  · rw [none]
    exact hn
  · exact (Nat.pow_le_pow_right (by decide) (by omega)).trans (two_pow_surplus_le some)

theorem two_pow_le_nearestQuotient {m : Nat} (hm : 2 ^ 52 ≤ m) :
    2 ^ 52 ≤ nearestQuotient m (surplus m) := by
  refine le_trans ?_ (div_le_nearestQuotient m (surplus m))
  rw [Nat.le_div_iff_mul_le (Nat.two_pow_pos _), ← pow_add]
  rcases Nat.eq_zero_or_pos (surplus m) with none | some
  · rw [none]
    exact hm
  · exact two_pow_surplus_le some

/-- A mantissa rounds to a canonical form of the rounded magnitude. -/
theorem roundWithAccuracy_exact (s : Sign) {m e : Nat} (hm : 0 < m)
    (hc : 2 ^ 52 ≤ m ∨ e = 0) :
    ∃ (m' e' : Nat) (hm' : 0 < m'),
      roundWithAccuracy Format.binary64 s m (exponent e) .exact =
          .finite s m' (exponent e') hm' ∧
        Canonical m' e' ∧ m' * 2 ^ e' = rounded (m * 2 ^ e) := by
  obtain ⟨whole, fits, normal⟩ := carried (nearestQuotient_surplus_le m)
  have first := (Shifted.shiftRight m (surplus m)).roundedMantissa
  have second := (Shifted.shiftRight (nearestQuotient m (surplus m))
    (surplus (nearestQuotient m (surplus m)))).mantissa
  have pos : 0 < nearestQuotient m (surplus m) :=
    (Nat.div_pos (two_pow_surplus_le_self hm) (Nat.two_pow_pos _)).trans_le
      (div_le_nearestQuotient m _)
  generalize hr : nearestQuotient m (surplus m) = r at *
  have pos' : 0 < r / 2 ^ surplus r := by
    rcases Nat.eq_zero_or_pos (r / 2 ^ surplus r) with zero | pos'
    · rw [zero, Nat.zero_mul] at whole
      omega
    · exact pos'
  refine ⟨r / 2 ^ surplus r, e + surplus m + surplus r, pos', ?_, ⟨fits, ?_⟩, ?_⟩
  · unfold roundWithAccuracy
    simp only [shiftToTargetExponent_exact, first, second, dif_neg pos'.ne']
  · by_cases large : 2 ^ 52 ≤ m
    · exact .inl (normal (hr ▸ two_pow_le_nearestQuotient large))
    · -- Below the normal doubles nothing is dropped.
      have none : surplus m = 0 :=
        Nat.le_zero.1 (surplus_le_of_lt (j := 0) (by omega))
      have same : r = m := by
        rw [← hr, none]
        have := nearestQuotient_mul_two_pow m 0
        rwa [pow_zero, Nat.mul_one] at this
      have none' : surplus r = 0 := by rw [same, none]
      rw [none, none', hc.resolve_left large]
      exact .inr rfl
  · rw [rounded_scale, rounded, hr, Nat.add_assoc, Nat.add_comm e, pow_add, pow_add,
      Nat.mul_comm (2 ^ surplus m), ← Nat.mul_assoc, ← Nat.mul_assoc, whole]

/-- A magnitude rounds to a canonical form. -/
theorem round_canonical (s : Sign) {m : Nat} (hm : 0 < m) (e : Nat) :
    ∃ (m' e' : Nat) (hm' : 0 < m'),
      UnpackedFloat.round Format.binary64 s m (exponent e) = .finite s m' (exponent e') hm' ∧
        Canonical m' e' ∧ m' * 2 ^ e' = rounded (m * 2 ^ e) := by
  have pos : 0 < m * 2 ^ (e - (m.log2 + e - 52)) := Nat.mul_pos hm (Nat.two_pow_pos _)
  have large : 2 ^ 52 ≤ m * 2 ^ (e - (m.log2 + e - 52)) ∨ e - (e - (m.log2 + e - 52)) = 0 := by
    by_cases low : m.log2 + e ≤ 52
    · exact .inr (by omega)
    · left
      calc 2 ^ 52 ≤ 2 ^ (m.log2 + (e - (m.log2 + e - 52))) :=
            Nat.pow_le_pow_right (by decide) (by omega)
        _ = 2 ^ m.log2 * 2 ^ (e - (m.log2 + e - 52)) := pow_add ..
        _ ≤ m * 2 ^ (e - (m.log2 + e - 52)) :=
            Nat.mul_le_mul_right _ (Nat.log2_self_le hm.ne')
  obtain ⟨m', e', hm', run, canonical, value⟩ := roundWithAccuracy_exact s pos large
  refine ⟨m', e', hm', ?_, canonical, ?_⟩
  · simp only [UnpackedFloat.round, targetExponent_eq, decreaseExponent_eq]
    exact run
  · rw [value, Nat.mul_assoc, ← pow_add, Nat.add_sub_cancel' (Nat.sub_le ..)]

end WaypointMap.Double
