import WaypointMap.Proofs.Double.Unpacked

/-!
# Packed doubles

What is unpacked is in canonical form, and a canonical form is unpacked as it was packed. Only
an exponent that is too large is lost: it is packed as infinity.
-/

namespace WaypointMap.Double

open Float.Model Float.Model.UnpackedFloat

/-- What is left of an unpacked double that is packed. -/
def kept (x : UnpackedFloat) : UnpackedFloat :=
  UnpackedFloat.unpack Format.binary64 (UnpackedFloat.pack Format.binary64 x)

/-- Whether an unpacked double is in the form that unpacking gives. -/
def Stored : UnpackedFloat → Prop
  | .finite _ m e _ => ∃ e' : Nat, e = exponent e' ∧ Canonical m e' ∧ e' ≤ 2045
  | _ => True

theorem unpackSign_packComponents (s : Sign) (e : BitVec 11) (m : BitVec 52) :
    Sign.ofBitVec (unpackSign (packComponents Format.binary64 s e m)) = s := by
  simp only [unpackSign, packComponents, BitVec.extractLsb]
  rw [BitVec.extractLsb'_append_eq_of_le (by decide),
    BitVec.extractLsb'_append_eq_of_le (by decide)]
  cases s <;> rfl

theorem toNat_normal (m : BitVec 52) : (1#1 ++ m).toNat = 2 ^ 52 + m.toNat := by
  rw [BitVec.toNat_append, ← Nat.shiftLeft_add_eq_or_of_lt m.isLt, Nat.shiftLeft_eq]
  rfl

theorem ofNat_ne {f g : Nat} (hf : f < 2048) (hg : g < 2048) (h : f ≠ g) :
    BitVec.ofNat 11 f ≠ BitVec.ofNat 11 g := by
  intro same
  have := congrArg BitVec.toNat same
  rw [BitVec.toNat_ofNat, BitVec.toNat_ofNat, Nat.mod_eq_of_lt hf, Nat.mod_eq_of_lt hg] at this
  exact h this

theorem unpack_normal (s : Sign) {m f : Nat} (hm : 0 < m) (hf : 0 < f) (hf' : f < 2047)
    (low : 2 ^ 52 ≤ m) (high : m < 2 ^ 53) :
    UnpackedFloat.unpack Format.binary64
        (packComponents Format.binary64 s (BitVec.ofNat 11 f) (BitVec.ofNat 52 m)) =
      .finite s m (exponent (f - 1)) hm := by
  have mantissa : (1#1 ++ BitVec.ofNat 52 m).toNat = m := by
    rw [toNat_normal, BitVec.toNat_ofNat]
    omega
  have largest : BitVec.ofNat 11 f ≠ -1#11 := ofNat_ne (g := 2047) (by omega) (by omega) (by omega)
  have least : BitVec.ofNat 11 f ≠ 0#11 := ofNat_ne (by omega) (by omega) (by omega)
  have field : (BitVec.ofNat 11 f).toNat = f := by
    rw [BitVec.toNat_ofNat]
    omega
  unfold UnpackedFloat.unpack
  simp only [unpackMantissa_packComponents, unpackExponent_packComponents,
    unpackSign_packComponents, if_neg largest, if_neg least, mantissa, field]
  congr 1
  simp only [Format.exponentBias, exponent]
  omega

theorem unpack_subnormal (s : Sign) {m : Nat} (hm : 0 < m) (high : m < 2 ^ 52) :
    UnpackedFloat.unpack Format.binary64
        (packComponents Format.binary64 s 0#11 (BitVec.ofNat 52 m)) =
      .finite s m (exponent 0) hm := by
  have mantissa : (BitVec.ofNat 52 m).toNat = m := by
    rw [BitVec.toNat_ofNat]
    omega
  have some : BitVec.ofNat 52 m ≠ 0#52 := by
    intro zero
    rw [zero] at mantissa
    exact hm.ne mantissa
  have largest : 0#11 ≠ -1#11 := by decide
  unfold UnpackedFloat.unpack
  simp only [unpackMantissa_packComponents, unpackExponent_packComponents,
    unpackSign_packComponents, if_neg largest, if_true, dif_neg some, mantissa]
  congr 1

/-- What is too large is packed as infinity. -/
theorem kept_canonical (s : Sign) {m e : Nat} (hm : 0 < m) (hc : Canonical m e) :
    kept (.finite s m (exponent e) hm) =
      if e ≤ 2045 then .finite s m (exponent e) hm else .infinity s := by
  have bias : (exponent e + Format.binary64.exponentBias +
      Format.binary64.mantissaBitsWithoutImplicit).toNat = e + 1 := by
    simp only [Format.exponentBias, exponent]
    omega
  simp only [kept, UnpackedFloat.pack, bias]
  by_cases large : e ≤ 2045
  · have fits : ¬ 2 ^ Format.binary64.exponentBits ≤ e + 1 + 1 := by
      change ¬ 2048 ≤ e + 1 + 1
      omega
    rw [if_pos large, if_neg fits]
    by_cases normal : 2 ^ 52 ≤ m
    · have bits : m.log2 + 1 = Format.binary64.mantissaBits := by
        have low := (Nat.le_log2 hm.ne').2 normal
        have high := (Nat.log2_lt hm.ne').2 hc.1
        simp only [Format.mantissaBits]
        omega
      rw [if_pos bits]
      exact unpack_normal s hm (Nat.succ_pos e) (by omega) normal hc.1
    · have bits : m.log2 + 1 ≠ Format.binary64.mantissaBits := by
        have high := (Nat.log2_lt hm.ne').2 (Nat.lt_of_not_le normal)
        simp only [Format.mantissaBits]
        omega
      obtain rfl : e = 0 := hc.2.resolve_left normal
      rw [if_neg bits]
      exact unpack_subnormal s hm (Nat.lt_of_not_le normal)
  · have fits : 2 ^ Format.binary64.exponentBits ≤ e + 1 + 1 := by
      change 2048 ≤ e + 1 + 1
      omega
    rw [if_neg large, if_pos fits]
    cases s <;> rfl

@[simp] theorem kept_infinity (s : Sign) : kept (.infinity s) = .infinity s := by
  cases s <;> rfl

@[simp] theorem kept_zero (s : Sign) : kept (.zero s) = .zero s := by
  cases s <;> rfl

@[simp] theorem kept_notANumber : kept .notANumber = .notANumber := rfl

theorem stored_unpack (b : BitVec 64) :
    Stored (UnpackedFloat.unpack Format.binary64 b) := by
  unfold UnpackedFloat.unpack
  dsimp only
  split
  · split <;> exact trivial
  next finite =>
  have mantissa := (@unpackMantissa Format.binary64 b).isLt
  split
  next subnormal =>
    split
    · exact trivial
    · refine ⟨0, ?_, ⟨?_, .inr rfl⟩, by decide⟩
      · rw [subnormal]
        rfl
      · simp only at mantissa
        omega
  next normal =>
    have least : (@unpackExponent Format.binary64 b).toNat ≠ 0 := by
      intro zero
      exact normal (BitVec.eq_of_toNat_eq zero)
    have largest : (@unpackExponent Format.binary64 b).toNat ≠ 2047 := by
      intro top
      exact finite (BitVec.eq_of_toNat_eq top)
    have field := (@unpackExponent Format.binary64 b).isLt
    refine ⟨(@unpackExponent Format.binary64 b).toNat - 1, ?_, ⟨?_, .inl ?_⟩, ?_⟩
    · simp only [Format.exponentBias, exponent]
      omega
    · rw [toNat_normal]
      simp only at mantissa
      omega
    · rw [toNat_normal]
      exact Nat.le_add_right _ _
    · simp only at field
      omega

theorem kept_stored {x : UnpackedFloat} (hx : Stored x) : kept x = x := by
  cases x with
  | notANumber => exact kept_notANumber
  | infinity s => exact kept_infinity s
  | zero s => exact kept_zero s
  | finite s m e hm =>
    obtain ⟨e, rfl, canonical, small⟩ := hx
    rw [kept_canonical s hm canonical, if_pos small]

end WaypointMap.Double
