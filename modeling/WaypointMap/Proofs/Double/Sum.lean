import WaypointMap.Proofs.Double.Place

/-!
# The places of sums

A sum of finite doubles lies at the rounded sum of their places. So adding a double to both
sides keeps an order, and adding one that is not below zero gives no smaller double.
-/

namespace WaypointMap.Double

open Float.Model Float.Model.UnpackedFloat

/-- The place nearest to an integer. -/
def nearest (p : Int) : Int := p.sign * (min (rounded p.natAbs) top : Nat)

/-- The place of a sum, from the places of its terms. -/
def sum? (a b : Int) : Option Int :=
  if a.natAbs < top then if b.natAbs < top then some (nearest (a + b)) else some b
  else if b.natAbs < top ∨ a = b then some a
  else none

theorem nearest_natCast (n : Nat) : nearest n = (min (rounded n) top : Nat) := by
  rcases Nat.eq_zero_or_pos n with rfl | pos
  · rfl
  · rw [nearest, Int.natAbs_natCast, Int.sign_eq_one_of_pos (by omega), Int.one_mul]

theorem nearest_neg (p : Int) : nearest (-p) = -nearest p := by
  rw [nearest, nearest, Int.sign_neg, Int.natAbs_neg, Int.neg_mul]

theorem nearest_mono {p q : Int} (h : p ≤ q) : nearest p ≤ nearest q := by
  have mono : ∀ {m n : Nat}, m ≤ n → nearest m ≤ nearest n := by
    intro m n h
    rw [nearest_natCast, nearest_natCast]
    have := rounded_mono h
    omega
  have nonneg : ∀ n : Nat, 0 ≤ nearest n := by
    intro n
    rw [nearest_natCast]
    exact Int.natCast_nonneg _
  rcases Int.eq_nat_or_neg p with ⟨m, rfl | rfl⟩ <;> rcases Int.eq_nat_or_neg q with ⟨n, rfl | rfl⟩
  · exact mono (by omega)
  · obtain ⟨rfl, rfl⟩ : m = 0 ∧ n = 0 := by omega
    exact le_rfl
  · rw [nearest_neg]
    have := nonneg m
    have := nonneg n
    omega
  · rw [nearest_neg, nearest_neg]
    have := mono (m := n) (n := m) (by omega)
    omega

theorem natAbs_nearest (p : Int) : (nearest p).natAbs = min (rounded p.natAbs) top := by
  rcases Int.eq_nat_or_neg p with ⟨n, rfl | rfl⟩
  · rw [nearest_natCast, Int.natAbs_natCast, Int.natAbs_natCast]
  · rw [nearest_neg, nearest_natCast, Int.natAbs_neg, Int.natAbs_neg, Int.natAbs_natCast,
      Int.natAbs_natCast]

theorem natAbs_nearest_le (p : Int) : (nearest p).natAbs ≤ top := by
  rw [natAbs_nearest]
  exact min_le_right ..

/-- A power of two is a bound of what is nearest if it is one of the integer. -/
theorem natAbs_nearest_le_two_pow {p : Int} {k : Nat} (h : p.natAbs ≤ 2 ^ k) :
    (nearest p).natAbs ≤ 2 ^ k := by
  have exact_ := rounded_of_lt (m := 1) (by decide) k
  rw [Nat.one_mul] at exact_
  rw [natAbs_nearest]
  calc min (rounded p.natAbs) top ≤ rounded p.natAbs := min_le_left ..
    _ ≤ rounded (2 ^ k) := rounded_mono h
    _ = 2 ^ k := exact_

theorem two_pow_le_natAbs_nearest {p : Int} {k : Nat} (h : 2 ^ k ≤ p.natAbs)
    (below : 2 ^ k ≤ top) : 2 ^ k ≤ (nearest p).natAbs := by
  have exact_ := rounded_of_lt (m := 1) (by decide) k
  rw [Nat.one_mul] at exact_
  rw [natAbs_nearest]
  exact le_min (exact_.symm.trans_le (rounded_mono h)) below

theorem nearest_apply (s : Sign) (n : Nat) :
    nearest (s.apply n) = s.apply (min (rounded n) top : Nat) := by
  cases s
  · rw [Sign.apply, nearest_neg, nearest_natCast, Sign.apply]
  · exact nearest_natCast n

/-- The place of a finite double is nearest to itself. -/
theorem nearest_placeOf? {x : UnpackedFloat} (hx : Stored x) {a : Int}
    (ha : placeOf? x = some a) (small : a.natAbs < top) : nearest a = a := by
  cases x with
  | notANumber => cases ha
  | infinity s =>
    cases ha
    cases s <;> exact absurd small (by simp [Sign.apply])
  | zero s =>
    cases ha
    rfl
  | finite s m e hm =>
    obtain ⟨e, rfl, hc, -, high⟩ := hx.finite
    cases (placeOf?_finite s hm e).symm.trans ha
    rw [nearest_apply, rounded_of_lt hc.1, min_eq_left high.le]

theorem placeOf?_kept_canonical (s : Sign) {m e : Nat} (hm : 0 < m) (hc : Canonical m e) :
    placeOf? (kept (.finite s m (exponent e) hm)) = some (s.apply (min (m * 2 ^ e) top : Nat)) := by
  rw [kept_canonical s hm hc]
  split
  next small => rw [placeOf?_finite, min_eq_left (hc.lt_top_iff.2 small).le]
  next large =>
    rw [placeOf?_infinity, min_eq_right]
    exact Nat.le_of_not_lt (mt hc.lt_top_iff.1 large)

theorem placeOf?_round (s : Sign) {m : Nat} (hm : 0 < m) (e : Nat) :
    placeOf? (kept (UnpackedFloat.round Format.binary64 s m (exponent e))) =
      some (nearest (s.apply (m * 2 ^ e : Nat))) := by
  obtain ⟨m', e', hm', run, canonical, value⟩ := round_canonical s hm e
  rw [run, placeOf?_kept_canonical s hm' canonical, nearest_apply, ← value]

theorem placeOf?_normalize (k : Int) (e : Nat) :
    placeOf? (kept (UnpackedFloat.normalize Format.binary64 k (exponent e) .positive)) =
      some (nearest (k * (2 ^ e : Nat))) := by
  unfold UnpackedFloat.normalize
  rcases Int.lt_trichotomy k 0 with neg | rfl | pos
  · simp only [Int.compare_eq_lt.2 neg]
    rw [placeOf?_round _ (by omega), Sign.apply, Int.natCast_mul, ← Int.neg_mul]
    congr 3
    omega
  · simp only [Std.compare_self, Int.zero_mul]
    rfl
  · simp only [Int.compare_eq_gt.2 pos]
    rw [placeOf?_round _ (by omega), Sign.apply, Int.natCast_mul]
    congr 3
    omega

theorem min_exponent (e e' : Nat) : min (exponent e) (exponent e') = exponent (min e e') := by
  unfold exponent
  omega

theorem apply_mul (s : Sign) (m n : Nat) : s.apply m * (n : Int) = s.apply (m * n : Nat) := by
  cases s
  · rw [Sign.apply, Sign.apply, Int.natCast_mul, Int.neg_mul]
  · rw [Sign.apply, Sign.apply, Int.natCast_mul]

theorem placeOf?_add_finite (s s' : Sign) {m m' : Nat} (hm : 0 < m) (hm' : 0 < m')
    (e e' : Nat) :
    placeOf? (kept (UnpackedFloat.add Format.binary64 (.finite s m (exponent e) hm)
      (.finite s' m' (exponent e') hm'))) =
        some (nearest (s.apply (m * 2 ^ e : Nat) + s'.apply (m' * 2 ^ e' : Nat))) := by
  simp only [UnpackedFloat.add, min_exponent, decreaseExponent_eq]
  rw [placeOf?_normalize, Int.add_mul, apply_mul, apply_mul, Nat.mul_assoc, Nat.mul_assoc,
    ← pow_add, ← pow_add, Nat.sub_add_cancel (min_le_left e e'),
    Nat.sub_add_cancel (min_le_right e e')]

theorem natAbs_apply (s : Sign) (n : Nat) : (s.apply n).natAbs = n := by
  cases s <;> simp [Sign.apply]

theorem placeOf?_add_infinity (s s' : Sign) :
    placeOf? (kept (UnpackedFloat.add Format.binary64 (.infinity s) (.infinity s'))) =
      sum? (s.apply top) (s'.apply top) := by
  have pos := top_pos
  have large : ∀ s : Sign, ¬ (s.apply top).natAbs < top := fun s =>
    (natAbs_apply s top).not_lt
  rw [sum?, if_neg (large s)]
  simp only [large s', false_or]
  cases s <;> cases s'
  · exact (if_pos rfl).symm
  · exact (if_neg (by simp only [Sign.apply]; omega)).symm
  · exact (if_neg (by simp only [Sign.apply]; omega)).symm
  · exact (if_pos rfl).symm

/-- The place of a sum of unpacked doubles. -/
theorem placeOf?_add {x y : UnpackedFloat} (hx : Stored x) (hy : Stored y) {a b : Int}
    (ha : placeOf? x = some a) (hb : placeOf? y = some b) :
    placeOf? (kept (UnpackedFloat.add Format.binary64 x y)) = sum? a b := by
  have left : ∀ s : Sign, x = .infinity s → y.isFinite = true →
      sum? a b = some (s.apply top) := by
    rintro s rfl finite
    cases ha
    rw [sum?, if_neg (natAbs_apply s top).not_lt, if_pos (.inl (natAbs_lt_top hy hb finite))]
  have right : ∀ s : Sign, y = .infinity s → x.isFinite = true →
      sum? a b = some (s.apply top) := by
    rintro s rfl finite
    cases hb
    rw [sum?, if_pos (natAbs_lt_top hx ha finite), if_neg (natAbs_apply s top).not_lt]
  have both : x.isFinite = true → y.isFinite = true → sum? a b = some (nearest (a + b)) := by
    intro finite finite'
    rw [sum?, if_pos (natAbs_lt_top hx ha finite), if_pos (natAbs_lt_top hy hb finite')]
  cases x with
  | notANumber => cases ha
  | infinity s =>
    cases y with
    | notANumber => cases hb
    | infinity s' => cases ha; cases hb; exact placeOf?_add_infinity s s'
    | zero s' => rw [left s rfl rfl]; exact congrArg placeOf? (kept_infinity s)
    | finite s' m' e' hm' => rw [left s rfl rfl]; exact congrArg placeOf? (kept_infinity s)
  | zero s =>
    cases y with
    | notANumber => cases hb
    | infinity s' => rw [right s' rfl rfl]; exact congrArg placeOf? (kept_infinity s')
    | zero s' => cases ha; cases hb; rw [both rfl rfl]; cases s <;> cases s' <;> rfl
    | finite s' m' e' hm' =>
      rw [both rfl rfl]
      cases ha
      rw [Int.zero_add, nearest_placeOf? hy hb (natAbs_lt_top hy hb rfl), ← hb]
      exact congrArg placeOf? (kept_stored hy)
  | finite s m e hm =>
    cases y with
    | notANumber => cases hb
    | infinity s' => rw [right s' rfl rfl]; exact congrArg placeOf? (kept_infinity s')
    | zero s' =>
      rw [both rfl rfl]
      cases hb
      rw [Int.add_zero, nearest_placeOf? hx ha (natAbs_lt_top hx ha rfl), ← ha]
      exact congrArg placeOf? (kept_stored hx)
    | finite s' m' e' hm' =>
      rw [both rfl rfl]
      obtain ⟨e, rfl, -⟩ := hx.finite
      obtain ⟨e', rfl, -⟩ := hy.finite
      cases (placeOf?_finite s hm e).symm.trans ha
      cases (placeOf?_finite s' hm' e').symm.trans hb
      exact placeOf?_add_finite s s' hm hm' e e'

/-! ## Sums of doubles -/

theorem toModel_add (x y : Float) :
    (x + y).toModel.unpack =
      kept (UnpackedFloat.add Format.binary64 x.toModel.unpack y.toModel.unpack) :=
  rfl

theorem place?_add {x y : Float} {a b : Int} (ha : place? x = some a) (hb : place? y = some b) :
    place? (x + y) = sum? a b := by
  rw [place?, toModel_add]
  exact placeOf?_add (stored_toModel x) (stored_toModel y) ha hb

theorem add_of_none_left {x : UnpackedFloat} (hx : placeOf? x = none) (y : UnpackedFloat) :
    UnpackedFloat.add Format.binary64 x y = .notANumber := by
  cases x <;> first | rfl | cases hx

theorem add_of_none_right (x : UnpackedFloat) {y : UnpackedFloat} (hy : placeOf? y = none) :
    UnpackedFloat.add Format.binary64 x y = .notANumber := by
  cases y <;> first | (cases x <;> rfl) | cases hy

theorem exists_place_of_add {x y : Float} {c : Int} (h : place? (x + y) = some c) :
    ∃ a b, place? x = some a ∧ place? y = some b ∧ sum? a b = some c := by
  cases hx : place? x with
  | none =>
    rw [place?, toModel_add, add_of_none_left hx] at h
    cases h
  | some a =>
    cases hy : place? y with
    | none =>
      rw [place?, toModel_add, add_of_none_right _ hy] at h
      cases h
    | some b => exact ⟨a, b, rfl, rfl, (place?_add hx hy).symm.trans h⟩

theorem natAbs_place_le {x : Float} {a : Int} (ha : place? x = some a) : a.natAbs ≤ top := by
  have stored := stored_toModel x
  unfold place? at ha
  cases hu : x.toModel.unpack with
  | notANumber => rw [hu] at ha; cases ha
  | infinity s => rw [hu] at ha; cases ha; exact (natAbs_apply s top).le
  | zero s => exact (natAbs_lt_top stored ha (by rw [hu]; rfl)).le
  | finite s m e hm => exact (natAbs_lt_top stored ha (by rw [hu]; rfl)).le

theorem nearest_place {x : Float} {a : Int} (ha : place? x = some a) (small : a.natAbs < top) :
    nearest a = a :=
  nearest_placeOf? (stored_toModel x) ha small

theorem lt_top_of_sum? {a b c : Int} (h : sum? a b = some c) (small : c.natAbs < top) :
    a.natAbs < top ∧ b.natAbs < top := by
  unfold sum? at h
  split_ifs at h with ha hb hb
  · exact ⟨ha, hb⟩
  · cases h
    exact absurd small hb
  · cases h
    exact absurd small ha

theorem le_of_sum? {x : Float} {a b c : Int} (ha : place? x = some a) (hb : 0 ≤ b)
    (hb' : b.natAbs ≤ top) (h : sum? a b = some c) : a ≤ c := by
  have bound := natAbs_place_le ha
  unfold sum? at h
  split_ifs at h with small small' _
  · cases h
    calc a = nearest a := (nearest_place ha small).symm
      _ ≤ nearest (a + b) := nearest_mono (by omega)
  · cases h
    omega
  · cases h
    exact le_rfl

theorem sum?_mono {a b c p q : Int} (h : a ≤ b) (ha : a.natAbs ≤ top) (hb : b.natAbs ≤ top)
    (hp : sum? a c = some p) (hq : sum? b c = some q) : p ≤ q := by
  have low := natAbs_nearest_le (a + c)
  have high := natAbs_nearest_le (b + c)
  have mono := nearest_mono (p := a + c) (q := b + c) (by omega)
  unfold sum? at hp hq
  split_ifs at hp hq <;> cases hp <;> cases hq <;> omega

end WaypointMap.Double
