import WaypointMap.Proofs.Double.Difference
import WaypointMap.Proofs.Double.Product

/-!
# Integers as doubles

An integer becomes the double nearest to it. Integers from half a step beyond the largest double
on are too large and become infinite.
-/

namespace WaypointMap.Double

open Float.Model Float.Model.UnpackedFloat

/-- A product that fits is exact. -/
theorem multiplied_of_lt {m j : Nat} (hm : m < 2 ^ 53) (hj : 1074 ≤ j) :
    multiplied (m * 2 ^ j) = m * 2 ^ (j - 1074) := by
  have fits : surplus (m * 2 ^ j) ≤ j := by
    apply surplus_le_of_lt
    rw [pow_add]
    exact Nat.mul_lt_mul_of_pos_right hm (Nat.two_pow_pos j)
  have low : 1074 ≤ dropped (m * 2 ^ j) := le_max_left ..
  have high : dropped (m * 2 ^ j) ≤ j := max_le hj fits
  rw [multiplied]
  generalize dropped (m * 2 ^ j) = d at low high
  have parts : m * 2 ^ j = m * 2 ^ (j - d) * 2 ^ d := by
    rw [Nat.mul_assoc, ← pow_add, Nat.sub_add_cancel high]
  have shift : j - d + (d - 1074) = j - 1074 := by omega
  rw [parts, nearestQuotient_mul_two_pow, Nat.mul_assoc, ← pow_add, shift]

/-! ## Natural numbers -/

/-- The place of one. -/
@[irreducible] def unit : Nat := 2 ^ 1074

theorem unit_eq {k : Nat} (hk : k = 1074) : unit = 2 ^ k := by
  unfold unit
  rw [hk]

theorem unit_pos : 0 < unit := by
  obtain ⟨k, hk⟩ : ∃ k, k = 1074 := ⟨_, rfl⟩
  rw [unit_eq hk]
  exact Nat.two_pow_pos k

theorem place?_toFloat (n : UInt64) : place? n.toFloat = some (nearest (n.toNat * unit)) := by
  obtain ⟨k, hk⟩ : ∃ k, k = 1074 := ⟨_, rfl⟩
  have zero : exponent k = 0 := by
    unfold exponent
    omega
  have normal := placeOf?_normalize n.toNat k
  rw [zero, ← unit_eq hk] at normal
  exact normal

theorem place?_one : place? Float.exactlyRepresentablePowersOfTen[0] = some (unit : Nat) := by
  unfold unit
  decide +kernel

theorem rounded_mul_unit (n : Nat) : rounded (n * unit) = rounded n * unit := by
  obtain ⟨k, hk⟩ : ∃ k, k = 1074 := ⟨_, rfl⟩
  rw [unit_eq hk, rounded_scale]

theorem mul_unit_lt_top {n k : Nat} (hk : k = 1024) : n * unit < top ↔ n < 2 ^ k := by
  obtain ⟨j, hj⟩ : ∃ j, j = 1074 := ⟨_, rfl⟩
  have split : top = 2 ^ k * 2 ^ j := by rw [top_eq (k := k + j) (by omega), pow_add]
  rw [unit_eq hj, split, Nat.mul_lt_mul_right (Nat.two_pow_pos j)]

theorem mul_unit_lt_top_of_lt {n : Nat} (small : n < 2 ^ 53) : n * unit < top := by
  obtain ⟨k, hk⟩ : ∃ k, k = 1024 := ⟨_, rfl⟩
  exact (mul_unit_lt_top hk).2 (small.trans (Nat.pow_lt_pow_right (by decide) (by omega)))

/-- A natural number of 53 bits has its own place. -/
theorem nearest_mul_unit {n : Nat} (small : n < 2 ^ 53) :
    nearest (n * unit) = (n * unit : Nat) := by
  have self := rounded_of_lt small 0
  rw [pow_zero, Nat.mul_one] at self
  rw [← Int.natCast_mul, nearest_natCast, rounded_mul_unit, self,
    min_eq_left (mul_unit_lt_top_of_lt small).le]

/-- To multiply with one changes nothing. -/
theorem multiplied_unit {n : Nat} (small : n < 2 ^ 53) :
    multiplied (n * unit * unit) = n * unit := by
  obtain ⟨k, hk⟩ : ∃ k, k = 1074 := ⟨_, rfl⟩
  have shift : k + k - 1074 = k := by omega
  rw [unit_eq hk, Nat.mul_assoc, ← pow_add, multiplied_of_lt small (by omega), shift]

theorem place?_ofNat_of_lt {n : Nat} (small : n < 2 ^ 53) :
    place? (Float.ofNat n) = some (nearest (n * unit)) := by
  have product : Float.ofNat n =
      n.toUInt64.toFloat * Float.exactlyRepresentablePowersOfTen[0] :=
    dif_pos ⟨small, by decide⟩
  have same : n.toUInt64.toNat = n := by
    rw [Nat.toUInt64, UInt64.toNat_ofNat']
    omega
  have factor := place?_toFloat n.toUInt64
  rw [same, nearest_mul_unit small] at factor
  have finite : n * unit < top := mul_unit_lt_top_of_lt small
  have finite' : unit < top := Nat.one_mul unit ▸ mul_unit_lt_top_of_lt (by decide)
  rw [product, place?_mul factor place?_one finite finite', nearest_mul_unit small,
    ← Int.natCast_mul, Int.natAbs_natCast, multiplied_unit small, min_eq_left finite.le]
  rcases Nat.eq_zero_or_pos n with rfl | pos
  · rw [Nat.zero_mul, Int.natCast_zero, Int.mul_zero]
  · have positive : 0 < n * unit * unit := Nat.mul_pos (Nat.mul_pos pos unit_pos) unit_pos
    exact congrArg some (sign_apply_mul .positive positive _)

theorem place?_ofNat_of_ge {n : Nat} (large : 2 ^ 53 ≤ n) :
    place? (Float.ofNat n) = some (nearest (n * unit)) := by
  obtain ⟨k, hk⟩ : ∃ k, k = 1021 := ⟨_, rfl⟩
  have shift : unit = 2 ^ (53 + k) := unit_eq (by omega)
  have least : -((1 + 52 : Nat) : Int) + 0 = exponent k := by
    unfold exponent
    omega
  have inRange : ¬ (0 : Int) < -(2 ^ Format.binary64.exponentBits + n.log2) := by
    have : (0 : Int) ≤ 2 ^ Format.binary64.exponentBits := by decide
    omega
  have written : Float.ofNat n = ⟨Float.Model.ofScientific n 0⟩ :=
    dif_neg fun exact => exact.1.not_ge large
  have positive : 0 < n * 2 ^ 53 := Nat.mul_pos (by omega) (by decide)
  rw [written]
  change placeOf? (kept (UnpackedFloat.ofScientific Format.binary64 n 0)) = _
  unfold UnpackedFloat.ofScientific
  rw [dif_neg (by omega), if_neg (by decide), if_neg inRange, if_pos (by decide)]
  simp only [UnpackedFloat.mul, Int.toNat_zero, pow_zero, Nat.mul_one, Nat.shiftLeft_eq,
    Format.mantissaBits]
  rw [least]
  obtain ⟨m', e', hm', run, canonical, value⟩ :=
    roundWithAccuracy_exact (.positive * .positive) positive (e := k) (.inl (by omega))
  rw [run, placeOf?_kept_canonical _ hm' canonical, value, Nat.mul_assoc, ← pow_add, ← shift,
    ← Int.natCast_mul, nearest_natCast]
  rfl

theorem place?_ofNat (n : Nat) : place? (Float.ofNat n) = some (nearest (n * unit)) := by
  rcases Nat.lt_or_ge n (2 ^ 53) with small | large
  · exact place?_ofNat_of_lt small
  · exact place?_ofNat_of_ge large

theorem place?_neg (x : Float) : place? (-x) = (place? x).map (- ·) := by
  change placeOf? (kept x.toModel.unpack.neg) = _
  rw [kept_stored (stored_toModel x).neg, placeOf?_neg]
  rfl

theorem place?_ofInt (n : Int) : place? (Float.ofInt n) = some (nearest (n * unit)) := by
  cases n with
  | ofNat n => exact place?_ofNat n
  | negSucc n =>
    have negated : place? (Float.ofInt (.negSucc n)) = (place? (Float.ofNat n.succ)).map (- ·) :=
      place?_neg _
    rw [negated, place?_ofNat, Option.map_some, ← nearest_neg, ← Int.neg_mul]
    rfl

theorem zero_lt_nearest_mul_unit_iff {n : Int} : 0 < nearest (n * unit) ↔ 0 < n := by
  constructor
  · intro positive
    by_contra nonpositive
    have below : n * unit ≤ 0 :=
      Int.mul_nonpos_of_nonpos_of_nonneg (Int.not_lt.1 nonpositive) (Int.natCast_nonneg unit)
    exact (nearest_mono below).not_gt positive
  · intro positive
    have one : nearest (1 * unit) = (1 * unit : Nat) := nearest_mul_unit (n := 1) (by decide)
    have above : 1 * (unit : Int) ≤ n * unit :=
      Int.mul_le_mul_of_nonneg_right positive (Int.natCast_nonneg unit)
    have least : 0 < nearest (1 * unit) := by
      rw [one, Nat.one_mul]
      exact Int.natCast_pos.2 unit_pos
    exact least.trans_le (nearest_mono above)

/-- An integer is positive as a double if it is. -/
theorem zero_lt_ofInt_iff (n : Int) : 0 < Float.ofInt n ↔ 0 < n := by
  rw [lt_iff, place?_ofInt, ← zero_lt_nearest_mul_unit_iff]
  constructor
  · rintro ⟨a, b, zero, ⟨⟩, less⟩
    cases place?_zero.symm.trans zero
    exact less
  · exact fun positive => ⟨0, _, place?_zero, rfl, positive⟩

/-! ## Integers that are too large -/

/-- Half a step beyond the largest double, where integers begin to be too large. -/
@[irreducible] def integerBound : Nat := 2 ^ 1024 - 2 ^ 970

theorem rounded_lt_iff {n k : Nat} (hk : k = 1024) : rounded n < 2 ^ k ↔ n < integerBound := by
  have below : rounded (integerBound - 1) < 2 ^ k := by
    rw [hk]
    unfold integerBound
    decide +kernel
  have above : 2 ^ k ≤ rounded integerBound := by
    rw [hk]
    unfold integerBound
    decide +kernel
  constructor
  · intro small
    by_contra large
    exact (above.trans (rounded_mono (Nat.le_of_not_lt large))).not_gt small
  · intro small
    exact (rounded_mono (Nat.le_sub_one_of_lt small)).trans_lt below

/-- An integer is finite as a double if it is smaller than half a step beyond the largest one. -/
theorem isFinite_ofInt_iff (n : Int) :
    (Float.ofInt n).isFinite = true ↔ n.natAbs < integerBound := by
  obtain ⟨k, hk⟩ : ∃ k, k = 1024 := ⟨_, rfl⟩
  have size : (nearest (n * unit)).natAbs < top ↔ n.natAbs < integerBound := by
    rw [natAbs_nearest, Int.natAbs_mul, Int.natAbs_natCast, rounded_mul_unit, min_lt_iff,
      mul_unit_lt_top hk, rounded_lt_iff hk]
    exact or_iff_left (Nat.lt_irrefl top)
  rw [isFinite_double_iff, place?_ofInt, ← size]
  constructor
  · rintro ⟨a, ⟨⟩, small⟩
    exact small
  · exact fun small => ⟨_, rfl, small⟩

end WaypointMap.Double
