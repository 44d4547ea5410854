import WaypointMap.Proofs.Double.Packed

/-!
# The places of doubles

Every double but the one that is not a number has a place among the integers: its multiple of
the least double above zero. The infinities stand where the next powers of two would. Doubles
compare as their places do, and a sum of finite doubles has the rounded sum of their places,
cut off at the infinities.
-/

namespace WaypointMap.Double

open Float.Model Float.Model.UnpackedFloat

/-- The place of infinity. -/
@[irreducible] def top : Nat := 2 ^ 53 * 2 ^ 2045

/-- The place of an unpacked double. -/
def placeOf? : UnpackedFloat → Option Int
  | .notANumber => none
  | .infinity s => some (s.apply top)
  | .zero _ => some 0
  | .finite s m e _ => some (s.apply (m * 2 ^ (e + 1074).toNat : Nat))

/-- The place of a double. -/
def place? (x : Float) : Option Int := placeOf? x.toModel.unpack

theorem placeOf?_finite (s : Sign) {m : Nat} (hm : 0 < m) (e : Nat) :
    placeOf? (.finite s m (exponent e) hm) = some (s.apply (m * 2 ^ e : Nat)) := by
  have back : (exponent e + 1074).toNat = e := by
    unfold exponent
    omega
  rw [placeOf?, back]

@[simp] theorem placeOf?_notANumber : placeOf? .notANumber = none := rfl

@[simp] theorem placeOf?_infinity (s : Sign) : placeOf? (.infinity s) = some (s.apply top) := rfl

@[simp] theorem placeOf?_zero (s : Sign) : placeOf? (.zero s) = some 0 := rfl

/-! ## Canonical forms in order -/

theorem carried_pow (k : Nat) : 2 ^ 53 * 2 ^ k = 2 ^ 52 * 2 ^ (k + 1) := by
  rw [pow_succ 2 k, pow_succ 2 52, Nat.mul_assoc, Nat.mul_comm 2]

theorem Canonical.lt_of_exponent_lt {m e m' e' : Nat} (h : Canonical m e)
    (h' : Canonical m' e') (lt : e < e') : m * 2 ^ e < m' * 2 ^ e' := by
  have normal : 2 ^ 52 ≤ m' := h'.2.resolve_right (by omega)
  calc m * 2 ^ e < 2 ^ 53 * 2 ^ e := Nat.mul_lt_mul_of_pos_right h.1 (Nat.two_pow_pos e)
    _ = 2 ^ 52 * 2 ^ (e + 1) := carried_pow e
    _ ≤ 2 ^ 52 * 2 ^ e' := Nat.mul_le_mul_left _ (Nat.pow_le_pow_right (by decide) lt)
    _ ≤ m' * 2 ^ e' := Nat.mul_le_mul_right _ normal

theorem Canonical.lt_two_pow_iff {m e : Nat} (h : Canonical m e) (k : Nat) :
    m * 2 ^ e < 2 ^ 53 * 2 ^ k ↔ e ≤ k := by
  constructor
  · intro lt
    by_contra large
    have normal : 2 ^ 52 ≤ m := h.2.resolve_right (by omega)
    refine lt.not_ge ?_
    calc 2 ^ 53 * 2 ^ k = 2 ^ 52 * 2 ^ (k + 1) := carried_pow k
      _ ≤ 2 ^ 52 * 2 ^ e :=
          Nat.mul_le_mul_left _ (Nat.pow_le_pow_right (by decide) (by omega))
      _ ≤ m * 2 ^ e := Nat.mul_le_mul_right _ normal
  · intro small
    exact (Nat.mul_lt_mul_of_pos_right h.1 (Nat.two_pow_pos e)).trans_le
      (Nat.mul_le_mul_left _ (Nat.pow_le_pow_right (by decide) small))

theorem Canonical.lt_top_iff {m e : Nat} (h : Canonical m e) :
    m * 2 ^ e < top ↔ e ≤ 2045 := by
  unfold top
  exact h.lt_two_pow_iff 2045

theorem top_pos : 0 < top := by
  have zero : 0 * 2 ^ 0 < top := Canonical.lt_top_iff ⟨by decide, .inr rfl⟩ |>.2 (by decide)
  omega

theorem compare_exponent (e e' : Nat) : compare (exponent e) (exponent e') = compare e e' := by
  rcases Nat.lt_trichotomy e e' with lt | rfl | gt
  · rw [Nat.compare_eq_lt.2 lt, Int.compare_eq_lt]
    unfold exponent
    omega
  · rw [Std.compare_self, Std.compare_self]
  · rw [Nat.compare_eq_gt.2 gt, Int.compare_eq_gt]
    unfold exponent
    omega

theorem compare_scale (m m' e : Nat) : compare (m * 2 ^ e) (m' * 2 ^ e) = compare m m' := by
  rcases Nat.lt_trichotomy m m' with lt | rfl | gt
  · rw [Nat.compare_eq_lt.2 lt, Nat.compare_eq_lt]
    exact Nat.mul_lt_mul_of_pos_right lt (Nat.two_pow_pos e)
  · rw [Std.compare_self, Std.compare_self]
  · rw [Nat.compare_eq_gt.2 gt, Nat.compare_eq_gt]
    exact Nat.mul_lt_mul_of_pos_right gt (Nat.two_pow_pos e)

theorem compare_then {m e m' e' : Nat} (h : Canonical m e) (h' : Canonical m' e') :
    (compare (exponent e) (exponent e')).then (compare m m') =
      compare (m * 2 ^ e) (m' * 2 ^ e') := by
  rw [compare_exponent]
  rcases Nat.lt_trichotomy e e' with lt | rfl | gt
  · rw [Nat.compare_eq_lt.2 lt, Nat.compare_eq_lt.2 (h.lt_of_exponent_lt h' lt)]
    rfl
  · rw [Std.compare_self, compare_scale]
    rfl
  · rw [Nat.compare_eq_gt.2 gt, Nat.compare_eq_gt.2 (h'.lt_of_exponent_lt h gt)]
    rfl

theorem Stored.finite {s : Sign} {m : Nat} {e : Int} {hm : 0 < m}
    (h : Stored (.finite s m e hm)) :
    ∃ e' : Nat, e = exponent e' ∧ Canonical m e' ∧ 0 < m * 2 ^ e' ∧ m * 2 ^ e' < top := by
  obtain ⟨e', rfl, hc, small⟩ := h
  exact ⟨e', rfl, hc, Nat.mul_pos hm (Nat.two_pow_pos _), hc.lt_top_iff.2 small⟩

theorem compare_finite (s s' : Sign) {m e m' e' : Nat} (hm : 0 < m) (hm' : 0 < m')
    (h : Canonical m e) (h' : Canonical m' e') :
    UnpackedFloat.compare (.finite s m (exponent e) hm) (.finite s' m' (exponent e') hm') =
      some (compare (s.apply (m * 2 ^ e : Nat)) (s'.apply (m' * 2 ^ e' : Nat))) := by
  have order := compare_then h h'
  have pos : 0 < m * 2 ^ e := Nat.mul_pos hm (Nat.two_pow_pos _)
  have pos' : 0 < m' * 2 ^ e' := Nat.mul_pos hm' (Nat.two_pow_pos _)
  generalize m * 2 ^ e = n at order pos
  generalize m' * 2 ^ e' = n' at order pos'
  cases s <;> cases s' <;> simp only [UnpackedFloat.compare, order, Sign.apply, Option.some.injEq]
  · rcases Nat.lt_trichotomy n n' with lt | rfl | gt
    · rw [Nat.compare_eq_lt.2 lt, eq_comm, Ordering.swap, Int.compare_eq_gt]
      omega
    · rw [Std.compare_self, Std.compare_self, Ordering.swap]
    · rw [Nat.compare_eq_gt.2 gt, eq_comm, Ordering.swap, Int.compare_eq_lt]
      omega
  · rw [eq_comm, Int.compare_eq_lt]
    omega
  · rw [eq_comm, Int.compare_eq_gt]
    omega
  · rcases Nat.lt_trichotomy n n' with lt | rfl | gt
    · rw [Nat.compare_eq_lt.2 lt, eq_comm, Int.compare_eq_lt]
      omega
    · rw [Std.compare_self, Std.compare_self]
    · rw [Nat.compare_eq_gt.2 gt, eq_comm, Int.compare_eq_gt]
      omega

theorem lt_eq_compare {a b : Int} (h : a < b) : some Ordering.lt = some (compare a b) := by
  rw [Int.compare_eq_lt.2 h]

theorem gt_eq_compare {a b : Int} (h : b < a) : some Ordering.gt = some (compare a b) := by
  rw [Int.compare_eq_gt.2 h]

theorem eq_eq_compare (a : Int) : some Ordering.eq = some (compare a a) := by
  rw [Std.compare_self]

theorem compare_zero_finite (s s' : Sign) {m e : Nat} (hm : 0 < m) :
    UnpackedFloat.compare (.zero s) (.finite s' m (exponent e) hm) =
      some (compare 0 (s'.apply (m * 2 ^ e : Nat))) := by
  have pos : 0 < m * 2 ^ e := Nat.mul_pos hm (Nat.two_pow_pos _)
  generalize m * 2 ^ e = n at pos
  cases s'
  · exact gt_eq_compare (by simp only [Sign.apply]; omega)
  · exact lt_eq_compare (by simp only [Sign.apply]; omega)

theorem compare_finite_zero (s s' : Sign) {m e : Nat} (hm : 0 < m) :
    UnpackedFloat.compare (.finite s m (exponent e) hm) (.zero s') =
      some (compare (s.apply (m * 2 ^ e : Nat)) 0) := by
  have pos : 0 < m * 2 ^ e := Nat.mul_pos hm (Nat.two_pow_pos _)
  generalize m * 2 ^ e = n at pos
  cases s
  · exact lt_eq_compare (by simp only [Sign.apply]; omega)
  · exact gt_eq_compare (by simp only [Sign.apply]; omega)

theorem isFinite_iff {x : UnpackedFloat} (hx : Stored x) :
    x.isFinite = true ↔ ∃ a, placeOf? x = some a ∧ a.natAbs < top := by
  have pos := top_pos
  cases x with
  | notANumber => simp [UnpackedFloat.isFinite]
  | infinity s => cases s <;> simp [UnpackedFloat.isFinite, Sign.apply]
  | zero s => simpa [UnpackedFloat.isFinite] using pos
  | finite s m e hm =>
    obtain ⟨e', rfl, hc, low, high⟩ := hx.finite
    rw [placeOf?_finite]
    generalize m * 2 ^ e' = n at high
    cases s <;> simpa [UnpackedFloat.isFinite, Sign.apply] using high

theorem natAbs_lt_top {x : UnpackedFloat} (hx : Stored x) {a : Int} (ha : placeOf? x = some a)
    (finite : x.isFinite = true) : a.natAbs < top := by
  obtain ⟨a', ha', small⟩ := (isFinite_iff hx).1 finite
  cases ha.symm.trans ha'
  exact small

theorem compare_infinity_left (s : Sign) {y : UnpackedFloat} (hy : Stored y) {b : Int}
    (hb : placeOf? y = some b) (small : b.natAbs < top) :
    UnpackedFloat.compare (.infinity s) y = some (compare (s.apply top) b) := by
  have finite := (isFinite_iff hy).2 ⟨b, hb, small⟩
  cases s <;> cases y <;> try cases finite
  · exact lt_eq_compare (by simp only [Sign.apply]; omega)
  · exact lt_eq_compare (by simp only [Sign.apply]; omega)
  · exact gt_eq_compare (by simp only [Sign.apply]; omega)
  · exact gt_eq_compare (by simp only [Sign.apply]; omega)

theorem compare_infinity_right (s : Sign) {x : UnpackedFloat} (hx : Stored x) {a : Int}
    (ha : placeOf? x = some a) (small : a.natAbs < top) :
    UnpackedFloat.compare x (.infinity s) = some (compare a (s.apply top)) := by
  have finite := (isFinite_iff hx).2 ⟨a, ha, small⟩
  cases x <;> cases s <;> try cases finite
  · exact gt_eq_compare (by simp only [Sign.apply]; omega)
  · exact lt_eq_compare (by simp only [Sign.apply]; omega)
  · exact gt_eq_compare (by simp only [Sign.apply]; omega)
  · exact lt_eq_compare (by simp only [Sign.apply]; omega)

theorem compare_infinity (s s' : Sign) :
    UnpackedFloat.compare (.infinity s) (.infinity s') =
      some (compare (s.apply top) (s'.apply top)) := by
  have pos := top_pos
  cases s <;> cases s'
  · exact eq_eq_compare _
  · exact lt_eq_compare (by simp only [Sign.apply]; omega)
  · exact gt_eq_compare (by simp only [Sign.apply]; omega)
  · exact eq_eq_compare _

/-- Unpacked doubles compare as their places. -/
theorem compare_eq {x y : UnpackedFloat} (hx : Stored x) (hy : Stored y) {a b : Int}
    (ha : placeOf? x = some a) (hb : placeOf? y = some b) :
    x.compare y = some (compare a b) := by
  cases x with
  | notANumber => cases ha
  | infinity s =>
    cases ha
    cases y with
    | notANumber => cases hb
    | infinity s' => cases hb; exact compare_infinity s s'
    | zero s' => exact compare_infinity_left s hy hb (natAbs_lt_top hy hb rfl)
    | finite s' m' e' hm' => exact compare_infinity_left s hy hb (natAbs_lt_top hy hb rfl)
  | zero s =>
    cases y with
    | notANumber => cases hb
    | infinity s' => cases hb; exact compare_infinity_right s' hx ha (natAbs_lt_top hx ha rfl)
    | zero s' => cases ha; cases hb; exact eq_eq_compare 0
    | finite s' m' e' hm' =>
      obtain ⟨e', rfl, hc', -, -⟩ := hy.finite
      cases ha
      cases (placeOf?_finite s' hm' e').symm.trans hb
      exact compare_zero_finite s s' hm'
  | finite s m e hm =>
    obtain ⟨e, rfl, hc, -, -⟩ := hx.finite
    cases y with
    | notANumber => cases hb
    | infinity s' => cases hb; exact compare_infinity_right s' hx ha (natAbs_lt_top hx ha rfl)
    | zero s' =>
      cases (placeOf?_finite s hm e).symm.trans ha
      cases hb
      exact compare_finite_zero s s' hm
    | finite s' m' e' hm' =>
      obtain ⟨e', rfl, hc', -, -⟩ := hy.finite
      cases (placeOf?_finite s hm e).symm.trans ha
      cases (placeOf?_finite s' hm' e').symm.trans hb
      exact compare_finite s s' hm hm' hc hc'

/-! ## Doubles in order -/

theorem stored_toModel (x : Float) : Stored x.toModel.unpack := stored_unpack _

theorem isNaN_iff (x : Float) : x.isNaN = true ↔ place? x = none := by
  change x.toModel.unpack.isNaN = true ↔ placeOf? x.toModel.unpack = none
  cases x.toModel.unpack <;> simp [UnpackedFloat.isNaN, placeOf?]

theorem isFinite_double_iff (x : Float) :
    x.isFinite = true ↔ ∃ a, place? x = some a ∧ a.natAbs < top :=
  isFinite_iff (stored_toModel x)

theorem place?_zero : place? 0.0 = some 0 := rfl

theorem compare_of_none_left {x : UnpackedFloat} (hx : placeOf? x = none) (y : UnpackedFloat) :
    x.compare y = none := by
  cases x <;> first | rfl | cases hx

theorem compare_of_none_right (x : UnpackedFloat) {y : UnpackedFloat} (hy : placeOf? y = none) :
    x.compare y = none := by
  cases y <;> first | (cases x <;> rfl) | cases hy

/-- Doubles compare as their places; one that is not a number compares with nothing. -/
theorem lt_iff (x y : Float) : x < y ↔ ∃ a b, place? x = some a ∧ place? y = some b ∧ a < b := by
  have model : x < y ↔ x.toModel.unpack.compare y.toModel.unpack = some .lt := by
    change (decide (x.toModel.unpack.lt y.toModel.unpack = true) = true) ↔ _
    rw [decide_eq_true_iff, UnpackedFloat.lt, beq_iff_eq]
  rw [model]
  constructor
  · intro lt
    cases hx : place? x with
    | none => simp [compare_of_none_left hx] at lt
    | some a =>
      cases hy : place? y with
      | none => simp [compare_of_none_right _ hy] at lt
      | some b =>
        rw [compare_eq (stored_toModel x) (stored_toModel y) hx hy, Option.some.injEq,
          Int.compare_eq_lt] at lt
        exact ⟨a, b, rfl, rfl, lt⟩
  · rintro ⟨a, b, ha, hb, lt⟩
    rw [compare_eq (stored_toModel x) (stored_toModel y) ha hb, Int.compare_eq_lt.2 lt]

end WaypointMap.Double
