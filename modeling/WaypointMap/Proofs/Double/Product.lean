import WaypointMap.Proofs.Double.Sum

/-!
# Products of doubles

The exact product of two finite doubles is a multiple of the square of the least double above zero.
It is rounded to 53 bits, and to a multiple of the least double.
-/

namespace WaypointMap.Double

open Float.Model Float.Model.UnpackedFloat

/-- The number of bits of an exact product that are rounded away. -/
def dropped (n : Nat) : Nat := max 1074 (surplus n)

/-- The place of a product, from the size of the exact one, below infinity. -/
def multiplied (n : Nat) : Nat := nearestQuotient n (dropped n) * 2 ^ (dropped n - 1074)

theorem nearestQuotient_dropped_le (n : Nat) : nearestQuotient n (dropped n) ≤ 2 ^ 53 := by
  have below : n / 2 ^ dropped n < 2 ^ 53 := by
    rw [Nat.div_lt_iff_lt_mul (Nat.two_pow_pos _), ← pow_add]
    calc n < 2 ^ (53 + surplus n) := lt_two_pow_surplus n
      _ ≤ 2 ^ (53 + dropped n) := Nat.pow_le_pow_right (by decide) (by unfold dropped; omega)
  exact (nearestQuotient_le n _).trans below

/-- Above the least exponent, all 53 bits are kept. -/
theorem two_pow_le_nearestQuotient_dropped {n : Nat} (above : 1074 < dropped n) :
    2 ^ 52 ≤ nearestQuotient n (dropped n) := by
  have same : dropped n = surplus n := by
    unfold dropped at above ⊢
    omega
  rw [same] at above ⊢
  refine two_pow_le_nearestQuotient ?_
  calc 2 ^ 52 ≤ 2 ^ (52 + surplus n) := Nat.pow_le_pow_right (by decide) (Nat.le_add_right ..)
    _ ≤ n := two_pow_surplus_le (by omega)

theorem dropped_mono {m n : Nat} (h : m ≤ n) : dropped m ≤ dropped n :=
  max_le_max_left 1074 (surplus_mono h)

theorem multiplied_mono {m n : Nat} (h : m ≤ n) : multiplied m ≤ multiplied n := by
  unfold multiplied
  have least : 1074 ≤ dropped m := le_max_left ..
  rcases (dropped_mono h).lt_or_eq with lt | eq
  · -- A power of two lies between the two products.
    have kept := two_pow_le_nearestQuotient_dropped (n := n) (by omega)
    calc nearestQuotient m (dropped m) * 2 ^ (dropped m - 1074)
        ≤ 2 ^ 53 * 2 ^ (dropped m - 1074) :=
          Nat.mul_le_mul_right _ (nearestQuotient_dropped_le m)
      _ = 2 ^ 52 * 2 ^ (dropped m - 1074 + 1) := carried_pow _
      _ ≤ 2 ^ 52 * 2 ^ (dropped n - 1074) :=
          Nat.mul_le_mul_left _ (Nat.pow_le_pow_right (by decide) (by omega))
      _ ≤ nearestQuotient n (dropped n) * 2 ^ (dropped n - 1074) := Nat.mul_le_mul_right _ kept
  · rw [eq]
    exact Nat.mul_le_mul_right _ (nearestQuotient_mono h _)

/-! ## Rounding -/

section Rounding

variable {m e m' e' : Nat} (hm : 0 < m) (hm' : 0 < m') (hc : Canonical m e)
  (hc' : Canonical m' e')

theorem product_scale (m e m' e' : Nat) :
    m * 2 ^ e * (m' * 2 ^ e') = m * m' * 2 ^ (e + e') := by
  rw [pow_add, Nat.mul_mul_mul_comm]

include hm hm'

theorem dropped_product :
    dropped (m * m' * 2 ^ (e + e')) = max 1074 ((m * m').log2 + (e + e') - 52) := by
  rw [dropped, surplus, log2_scale (Nat.mul_pos hm hm').ne']

include hc hc'

theorem Canonical.le_mul : 2 ^ 52 ≤ m * m' ∨ e + e' = 0 := by
  rcases hc.2 with normal | rfl
  · exact .inl (normal.trans (Nat.le_mul_of_pos_right m hm'))
  rcases hc'.2 with normal | rfl
  · exact .inl (normal.trans (Nat.le_mul_of_pos_left m' hm))
  · exact .inr rfl

theorem le_dropped_product : e + e' ≤ dropped (m * m' * 2 ^ (e + e')) := by
  have long : 52 ≤ (m * m').log2 ∨ e + e' = 0 :=
    (Canonical.le_mul hm hm' hc hc').imp_left (Nat.le_log2 (Nat.mul_pos hm hm').ne').2
  rw [dropped_product hm hm']
  omega

theorem shiftToTargetExponent_product :
    shiftToTargetExponent Format.binary64 (m * m') (exponent e + exponent e') .exact =
      (ExtendedMantissa.ofMantissaAndAccuracy (m * m') .exact >>>
          (dropped (m * m' * 2 ^ (e + e')) - (e + e')),
        exponent (dropped (m * m' * 2 ^ (e + e')) - 1074)) := by
  have enough := le_dropped_product hm hm' hc hc'
  have target : Format.binary64.targetExponent
      (totalExponent (m * m') (exponent e + exponent e')) =
        exponent (dropped (m * m' * 2 ^ (e + e')) - 1074) := by
    rw [dropped_product hm hm']
    simp only [Format.targetExponent, totalExponent, Format.mantissaBits, Format.minExponent,
      exponent]
    omega
  have least : 1074 ≤ dropped (m * m' * 2 ^ (e + e')) := le_max_left ..
  generalize dropped (m * m' * 2 ^ (e + e')) = d at enough target least ⊢
  have shift : (exponent (d - 1074) - (exponent e + exponent e')).toNat = d - (e + e') := by
    unfold exponent
    omega
  have final : exponent e + exponent e' + ((d - (e + e') : Nat) : Int) = exponent (d - 1074) := by
    unfold exponent
    omega
  simp only [shiftToTargetExponent, shiftToExponent, target, shift, final]

/-- Two canonical forms have a product whose place is as multiplied. -/
theorem placeOf?_product (s : Sign) :
    placeOf? (kept (roundWithAccuracy Format.binary64 s (m * m') (exponent e + exponent e')
      .exact)) = some (s.apply (min (multiplied (m * 2 ^ e * (m' * 2 ^ e'))) top : Nat)) := by
  have bound := nearestQuotient_dropped_le (m * m' * 2 ^ (e + e'))
  have normal := two_pow_le_nearestQuotient_dropped (n := m * m' * 2 ^ (e + e'))
  have enough := le_dropped_product hm hm' hc hc'
  have shifted := shiftToTargetExponent_product hm hm' hc hc'
  rw [multiplied, product_scale]
  generalize dropped (m * m' * 2 ^ (e + e')) = d at bound normal enough shifted ⊢
  have first := (Shifted.shiftRight (m * m') (d - (e + e'))).roundedMantissa
  rw [← nearestQuotient_scale _ _ (e + e'), Nat.sub_add_cancel enough] at first
  generalize nearestQuotient (m * m' * 2 ^ (e + e')) d = r at bound normal first ⊢
  obtain ⟨whole, fits, carry⟩ := carried bound
  have second := (Shifted.shiftRight r (surplus r)).mantissa
  simp only [roundWithAccuracy, shifted, first, shiftToTargetExponent_exact, second]
  split_ifs with none
  · rw [none, Nat.zero_mul] at whole
    rw [kept_zero, placeOf?_zero, ← whole, Nat.zero_mul, Nat.zero_min]
    cases s <;> rfl
  · have canonical : Canonical (r / 2 ^ surplus r) (d - 1074 + surplus r) := by
      refine ⟨fits, ?_⟩
      by_cases above : 1074 < d
      · exact .inl (carry (normal above))
      · rcases Nat.eq_zero_or_pos (surplus r) with zero | pos
        · right
          omega
        · refine .inl (carry ?_)
          calc 2 ^ 52 ≤ 2 ^ (52 + surplus r) :=
                Nat.pow_le_pow_right (by decide) (Nat.le_add_right ..)
            _ ≤ r := two_pow_surplus_le pos
    rw [placeOf?_kept_canonical s _ canonical, Nat.add_comm (d - 1074), pow_add, ← Nat.mul_assoc,
      whole]

end Rounding

/-! ## Places -/

theorem apply_mul_apply (s s' : Sign) (m n : Nat) :
    s.apply m * s'.apply n = (s * s').apply (m * n : Nat) := by
  cases s <;> cases s' <;>
    simp only [Sign.apply, Int.natCast_mul, Int.neg_mul, Int.mul_neg, Int.neg_neg]

theorem sign_apply_mul (s : Sign) {n : Nat} (pos : 0 < n) (k : Nat) :
    (s.apply n).sign * k = s.apply k := by
  cases s
  · rw [Sign.apply, Int.sign_neg, Int.sign_eq_one_of_pos (by omega), Int.neg_mul, Int.one_mul,
      Sign.apply]
  · rw [Sign.apply, Int.sign_eq_one_of_pos (by omega), Int.one_mul, Sign.apply]

/-- The place of a product, from the places of its factors. -/
theorem place?_mul {x y : Float} {a b : Int} (ha : place? x = some a) (hb : place? y = some b)
    (small : a.natAbs < top) (small' : b.natAbs < top) :
    place? (x * y) = some ((a * b).sign * (min (multiplied (a * b).natAbs) top : Nat)) := by
  have stored := stored_toModel x
  have stored' := stored_toModel y
  change placeOf? (kept (UnpackedFloat.mul Format.binary64 x.toModel.unpack y.toModel.unpack)) = _
  unfold place? at ha hb
  generalize x.toModel.unpack = u at ha stored
  generalize y.toModel.unpack = v at hb stored'
  cases u with
  | notANumber => cases ha
  | infinity s =>
    cases ha
    exact absurd small (natAbs_apply s top).not_lt
  | zero s =>
    cases ha
    rw [Int.zero_mul, Int.sign_zero, Int.zero_mul]
    cases v with
    | notANumber => cases hb
    | infinity s' =>
      cases hb
      exact absurd small' (natAbs_apply s' top).not_lt
    | zero s' => exact congrArg placeOf? (kept_zero _)
    | finite s' m' e' hm' => exact congrArg placeOf? (kept_zero _)
  | finite s m e hm =>
    obtain ⟨e, rfl, hc, pos, -⟩ := stored.finite
    cases (placeOf?_finite s hm e).symm.trans ha
    cases v with
    | notANumber => cases hb
    | infinity s' =>
      cases hb
      exact absurd small' (natAbs_apply s' top).not_lt
    | zero s' =>
      cases hb
      rw [Int.mul_zero, Int.sign_zero, Int.zero_mul]
      exact congrArg placeOf? (kept_zero _)
    | finite s' m' e' hm' =>
      obtain ⟨e', rfl, hc', pos', -⟩ := stored'.finite
      cases (placeOf?_finite s' hm' e').symm.trans hb
      simp only [UnpackedFloat.mul]
      rw [placeOf?_product hm hm' hc hc', apply_mul_apply, natAbs_apply,
        sign_apply_mul _ (Nat.mul_pos pos pos')]

/-- Bounds of two factors bound their product. -/
theorem exists_place_mul_le {x y : Float} {a b : Int} {m n : Nat} (ha : place? x = some a)
    (hb : place? y = some b) (small : a.natAbs < top) (small' : b.natAbs < top)
    (le : a.natAbs ≤ m) (le' : b.natAbs ≤ n) :
    ∃ c, place? (x * y) = some c ∧ c.natAbs ≤ multiplied (m * n) := by
  refine ⟨_, place?_mul ha hb small small', ?_⟩
  have unit : (a * b).sign.natAbs ≤ 1 := by
    rw [Int.natAbs_sign]
    split <;> decide
  have product : (a * b).natAbs ≤ m * n := Int.natAbs_mul a b ▸ Nat.mul_le_mul le le'
  rw [Int.natAbs_mul, Int.natAbs_natCast]
  calc (a * b).sign.natAbs * min (multiplied (a * b).natAbs) top
      ≤ 1 * min (multiplied (a * b).natAbs) top := Nat.mul_le_mul_right _ unit
    _ = min (multiplied (a * b).natAbs) top := Nat.one_mul _
    _ ≤ multiplied (a * b).natAbs := min_le_left ..
    _ ≤ multiplied (m * n) := multiplied_mono product

/-! ## The largest double -/

/-- The place of the largest finite double. -/
@[irreducible] def largest : Nat := (2 ^ 53 - 1) * 2 ^ 2045

theorem Canonical.le_mul_two_pow {m e k : Nat} (hc : Canonical m e) (he : e ≤ k) :
    m * 2 ^ e ≤ (2 ^ 53 - 1) * 2 ^ k :=
  Nat.mul_le_mul (Nat.le_sub_one_of_lt hc.1) (Nat.pow_le_pow_right (by decide) he)

theorem natAbs_le_largest {x : Float} {a : Int} (ha : place? x = some a)
    (small : a.natAbs < top) : a.natAbs ≤ largest := by
  have stored := stored_toModel x
  unfold place? at ha
  generalize x.toModel.unpack = u at ha stored
  cases u with
  | notANumber => cases ha
  | infinity s =>
    cases ha
    exact absurd small (natAbs_apply s top).not_lt
  | zero s =>
    cases ha
    rw [Int.natAbs_zero]
    exact Nat.zero_le _
  | finite s m e hm =>
    obtain ⟨e, rfl, hc, -, below⟩ := stored.finite
    cases (placeOf?_finite s hm e).symm.trans ha
    rw [natAbs_apply]
    unfold largest
    exact hc.le_mul_two_pow (hc.lt_top_iff.1 below)

end WaypointMap.Double
