import WaypointMap.Proofs.Double.Square

/-!
# Differences of doubles and their squares

A difference is the sum with the opposite, so a difference of finite doubles is a number. A
finite double differs from itself by zero. Which of two doubles is taken from the other does not
show in the square of their difference.
-/

namespace WaypointMap.Double

open Float.Model Float.Model.UnpackedFloat

/-! ## Differences as sums -/

theorem apply_neg (s : Sign) (n : Int) : (-s).apply n = -s.apply n := by
  cases s
  · exact (Int.neg_neg n).symm
  · rfl

theorem sub_eq_add_neg (x y : UnpackedFloat) :
    UnpackedFloat.sub Format.binary64 x y = UnpackedFloat.add Format.binary64 x y.neg := by
  cases x <;> cases y <;> try rfl
  simp only [UnpackedFloat.sub, UnpackedFloat.add, UnpackedFloat.neg, apply_neg,
    Int.sub_eq_add_neg]

theorem Stored.neg {x : UnpackedFloat} (hx : Stored x) : Stored x.neg := by
  cases x with
  | finite s m e hm => exact hx
  | notANumber => trivial
  | infinity s => trivial
  | zero s => trivial

theorem placeOf?_neg (x : UnpackedFloat) : placeOf? x.neg = (placeOf? x).map (- ·) := by
  cases x with
  | notANumber => rfl
  | infinity s => exact congrArg some (apply_neg s _)
  | zero s => rfl
  | finite s m e hm => exact congrArg some (apply_neg s _)

theorem toModel_sub (x y : Float) :
    (x - y).toModel.unpack =
      kept (UnpackedFloat.sub Format.binary64 x.toModel.unpack y.toModel.unpack) :=
  rfl

theorem place?_sub {x y : Float} {a b : Int} (ha : place? x = some a) (hb : place? y = some b) :
    place? (x - y) = sum? a (-b) := by
  have opposite : placeOf? y.toModel.unpack.neg = some (-b) := by
    rw [placeOf?_neg, show placeOf? y.toModel.unpack = some b from hb]
    rfl
  rw [place?, toModel_sub, sub_eq_add_neg]
  exact placeOf?_add (stored_toModel x) (stored_toModel y).neg ha opposite

/-! ## What stays a number -/

theorem exists_place_sub_of_isFinite {x y : Float} {a : Int} (ha : place? x = some a)
    (hy : y.isFinite = true) : ∃ c, place? (x - y) = some c := by
  obtain ⟨b, hb, small⟩ := (isFinite_double_iff y).1 hy
  rw [place?_sub ha hb, sum?, Int.natAbs_neg, if_pos small]
  split
  · exact ⟨_, rfl⟩
  · exact ⟨_, if_pos (.inl small)⟩

theorem exists_place_sub {x y : Float} (hx : x.isFinite = true) (hy : y.isFinite = true) :
    ∃ c, place? (x - y) = some c := by
  obtain ⟨a, ha, -⟩ := (isFinite_double_iff x).1 hx
  exact exists_place_sub_of_isFinite ha hy

theorem exists_place_of_sub {x y : Float} (h : ∃ c, place? (x - y) = some c) :
    ∃ a, place? x = some a := by
  obtain ⟨c, hc⟩ := h
  cases hx : place? x with
  | some a => exact ⟨a, rfl⟩
  | none =>
    rw [place?, toModel_sub, sub_eq_add_neg, add_of_none_left hx] at hc
    cases hc

/-- Infinities of one sign add up. -/
theorem exists_place_add {x y : Float} {a b : Int} (ha : place? x = some a)
    (hb : place? y = some b) (nonneg : 0 ≤ a) (nonneg' : 0 ≤ b) :
    ∃ c, place? (x + y) = some c := by
  have := natAbs_place_le ha
  have := natAbs_place_le hb
  rw [place?_add ha hb, sum?]
  split_ifs with small small' large
  · exact ⟨_, rfl⟩
  · exact ⟨_, rfl⟩
  · exact ⟨_, rfl⟩
  · omega

/-! ## A double and itself -/

theorem sub_self_of_isFinite {x : UnpackedFloat} (finite : x.isFinite = true) :
    UnpackedFloat.sub Format.binary64 x x = .zero .positive := by
  cases x with
  | notANumber => cases finite
  | infinity s => cases finite
  | zero s => cases s <;> rfl
  | finite s m e hm =>
    simp only [UnpackedFloat.sub, Int.sub_self]
    rfl

theorem double_sub_self {x : Float} (finite : x.isFinite = true) : x - x = 0.0 :=
  congrArg (fun u => Float.ofModel (Float.Model.pack u)) (sub_self_of_isFinite finite)

/-! ## Opposite differences -/

/-- Whether two unpacked doubles differ in their signs at most. -/
def SameSize (x y : UnpackedFloat) : Prop := y = x ∨ y = x.neg

theorem roundWithAccuracy_neg (s : Sign) (m : Nat) (e : Int) (a : Accuracy) :
    roundWithAccuracy Format.binary64 (-s) m e a =
      (roundWithAccuracy Format.binary64 s m e a).neg := by
  simp only [roundWithAccuracy]
  split_ifs <;> rfl

theorem normalize_neg (k e : Int) :
    SameSize (UnpackedFloat.normalize Format.binary64 k e .positive)
      (UnpackedFloat.normalize Format.binary64 (-k) e .positive) := by
  unfold UnpackedFloat.normalize
  rcases Int.lt_trichotomy k 0 with neg | rfl | pos
  · rw [Int.compare_eq_lt.2 neg, Int.compare_eq_gt.2 (by omega : 0 < -k)]
    exact .inr (roundWithAccuracy_neg .negative ..)
  · exact .inl rfl
  · rw [Int.compare_eq_gt.2 pos, Int.compare_eq_lt.2 (by omega : -k < 0), Int.neg_neg]
    exact .inr (roundWithAccuracy_neg .positive ..)

theorem sameSize_sub (x y : UnpackedFloat) :
    SameSize (UnpackedFloat.sub Format.binary64 x y) (UnpackedFloat.sub Format.binary64 y x) := by
  cases x with
  | notANumber => cases y <;> exact .inl rfl
  | infinity s =>
    cases y with
    | notANumber => exact .inl rfl
    | infinity s' => cases s <;> cases s' <;> first | exact .inl rfl | exact .inr rfl
    | zero s' => exact .inr rfl
    | finite s' m' e' hm' => exact .inr rfl
  | zero s =>
    cases y with
    | notANumber => exact .inl rfl
    | infinity s' => exact .inr (by cases s' <;> rfl)
    | zero s' => cases s <;> cases s' <;> first | exact .inl rfl | exact .inr rfl
    | finite s' m' e' hm' => exact .inr (by cases s' <;> rfl)
  | finite s m e hm =>
    cases y with
    | notANumber => exact .inl rfl
    | infinity s' => exact .inr (by cases s' <;> rfl)
    | zero s' => exact .inr rfl
    | finite s' m' e' hm' =>
      simp only [UnpackedFloat.sub, min_comm e' e]
      rw [← Int.neg_sub (s.apply _)]
      exact normalize_neg _ _

theorem unpack_packComponents_neg (s : Sign) (e : BitVec 11) (m : BitVec 52) :
    UnpackedFloat.unpack Format.binary64 (packComponents Format.binary64 (-s) e m) =
      (UnpackedFloat.unpack Format.binary64 (packComponents Format.binary64 s e m)).neg := by
  unfold UnpackedFloat.unpack
  simp only [unpackMantissa_packComponents, unpackExponent_packComponents,
    unpackSign_packComponents]
  split_ifs <;> rfl

theorem kept_neg (x : UnpackedFloat) : kept x.neg = (kept x).neg := by
  cases x with
  | notANumber => rfl
  | infinity s => exact unpack_packComponents_neg s _ _
  | zero s => exact unpack_packComponents_neg s _ _
  | finite s m e hm =>
    simp only [kept, UnpackedFloat.neg, UnpackedFloat.pack]
    split_ifs <;> exact unpack_packComponents_neg s _ _

theorem SameSize.kept {x y : UnpackedFloat} (h : SameSize x y) : SameSize (kept x) (kept y) := by
  rcases h with rfl | rfl
  · exact .inl rfl
  · exact .inr (kept_neg x)

theorem SameSize.mul_self {x y : UnpackedFloat} (h : SameSize x y) :
    UnpackedFloat.mul Format.binary64 x x = UnpackedFloat.mul Format.binary64 y y := by
  have signs : ∀ s : Sign, s * s = -s * -s := by
    intro s
    cases s <;> rfl
  rcases h with rfl | rfl
  · rfl
  · cases x with
    | notANumber => rfl
    | infinity s => exact congrArg UnpackedFloat.infinity (signs s)
    | zero s => exact congrArg UnpackedFloat.zero (signs s)
    | finite s m e hm => simp only [UnpackedFloat.mul, UnpackedFloat.neg, signs s]

theorem double_square_sub_comm (x y : Float) : (x - y) * (x - y) = (y - x) * (y - x) :=
  congrArg (fun u => Float.ofModel (Float.Model.pack u)) (sameSize_sub _ _).kept.mul_self

/-! ## Squares of differences -/

section Squares

variable {x y : Float} {a b : Int} (ha : place? x = some a) (hb : place? y = some b)

include ha hb

theorem place?_square_sub (small : a.natAbs < top) (small' : b.natAbs < top) :
    place? ((x - y) * (x - y)) = some (min (squared (nearest (a - b)).natAbs) top : Nat) := by
  rw [place?_mul_self]
  rw [place?_sub ha hb, sum?, if_pos small, if_pos (by rwa [Int.natAbs_neg]), Int.sub_eq_add_neg]

/-- The square of the difference of two places within a power of two is within another. -/
theorem exists_place_square_sub_le {k : Nat} (hk : 1074 ≤ k + k) (small : a.natAbs < top)
    (small' : b.natAbs < top) (near : (a - b).natAbs ≤ 2 ^ k) :
    ∃ n : Nat, place? ((x - y) * (x - y)) = some (n : Int) ∧ n ≤ 2 ^ (k + k - 1074) :=
  ⟨_, place?_square_sub ha hb small small',
    (min_le_left ..).trans (squared_le hk (natAbs_nearest_le_two_pow near))⟩

/-- The square of the difference of two places that are apart is not zero. -/
theorem exists_place_square_sub_pos {k : Nat} (hk : 1074 = k + k) (small : a.natAbs < top)
    (small' : b.natAbs < top) (apart : 2 ^ k ≤ (a - b).natAbs) :
    ∃ n : Nat, place? ((x - y) * (x - y)) = some (n : Int) ∧ 0 < n := by
  refine ⟨_, place?_square_sub ha hb small small', ?_⟩
  have far := two_pow_le_natAbs_nearest apart (two_pow_lt_top (by omega)).le
  have positive := le_squared hk.le far
  exact lt_min ((Nat.two_pow_pos _).trans_le positive) top_pos

end Squares

end WaypointMap.Double
