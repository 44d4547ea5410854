import WaypointMap.Proofs.Distance
import WaypointMap.Proofs.Store.Join
import WaypointMap.Store.Proximity

/-!
# The nearest waypoint

The scan of the squared distances finds the least, and the first of several, if all of them are
numbers. So no waypoint that is near enough stays hidden. One distance that is not a number
hides all waypoints.
-/

namespace WaypointMap

namespace Store

variable {K : Type} [Scalar K]

/-! ## The least of some numbers -/

/-- Whether `d` is the least of some numbers and `i` the first place where it stands. -/
structure FirstLeast (ds : List K) (i : Nat) (d : K) : Prop where
  entry : ds[i]? = some d
  least : ∀ {j : Nat} {e : K}, ds[j]? = some e → ¬ e < d
  first : ∀ {j : Nat} {e : K}, ds[j]? = some e → j < i → d < e

theorem FirstLeast.unique {ds : List K} {i j : Nat} {d e : K} (h : FirstLeast ds i d)
    (h' : FirstLeast ds j e) : i = j := by
  rcases Nat.lt_trichotomy i j with lt | eq | gt
  · exact absurd (h'.first h.entry lt) (h.least h'.entry)
  · exact eq
  · exact absurd (h.first h'.entry gt) (h'.least h.entry)

omit [Scalar K] in
theorem getElem?_concat_cases {ds : List K} {d e : K} {j : Nat} (h : (ds ++ [d])[j]? = some e) :
    ds[j]? = some e ∨ j = ds.length ∧ e = d := by
  rw [List.getElem?_append] at h
  split at h
  · exact .inl h
  · obtain ⟨hj, rfl⟩ := List.getElem?_eq_some_iff.1 h
    rw [List.length_singleton] at hj
    exact .inr ⟨by omega, List.getElem_singleton ..⟩

theorem FirstLeast.of_concat {ds : List K} {d e : K} {i : Nat}
    (h : FirstLeast (ds ++ [d]) i e) (short : i < ds.length) : FirstLeast ds i e := by
  have older : ∀ {j : Nat} {c : K}, ds[j]? = some c → (ds ++ [d])[j]? = some c := fun hc =>
    (List.getElem?_append_left (List.getElem?_eq_some_iff.1 hc).1).trans hc
  refine ⟨?_, fun he => h.least (older he), fun he => h.first (older he)⟩
  rw [← h.entry, List.getElem?_append_left short]

section Scan

variable [LawfulScalar K]

theorem firstLeast_singleton (d : K) : FirstLeast [d] 0 d := by
  refine ⟨rfl, fun {j} e he => ?_, fun _ lt => absurd lt (Nat.not_lt_zero _)⟩
  obtain ⟨-, rfl⟩ := List.getElem?_eq_some_iff.1 he
  rw [List.getElem_singleton]
  exact fun lt => LawfulScalar.lt_asymm lt lt

/-- One more number takes the place of the least if it is less. -/
theorem FirstLeast.concat {seen : List K} {i : Nat} {b : K} (h : FirstLeast seen i b)
    (numbers : ∀ e ∈ seen, Scalar.isNaN e = false) (d : K) :
    FirstLeast (seen ++ [d]) (if d < b then seen.length else i) (if d < b then d else b) := by
  have irrefl : ¬ d < d := fun lt => LawfulScalar.lt_asymm lt lt
  have short : i < seen.length := (List.getElem?_eq_some_iff.1 h.entry).1
  split
  next less =>
    refine ⟨List.getElem?_concat_length, fun he => ?_, fun {j e} he lt => ?_⟩
    · rcases getElem?_concat_cases he with he | ⟨-, rfl⟩
      · exact fun lt => h.least he (LawfulScalar.lt_trans lt less)
      · exact irrefl
    · rcases getElem?_concat_cases he with he | ⟨rfl, -⟩
      · rcases LawfulScalar.lt_or_lt less (numbers e (List.mem_of_getElem? he)) with above | below
        · exact above
        · exact absurd below (h.least he)
      · exact absurd lt (Nat.lt_irrefl _)
  next notLess =>
    refine ⟨?_, fun he => ?_, fun {j e} he lt => ?_⟩
    · rw [List.getElem?_append_left short]
      exact h.entry
    · rcases getElem?_concat_cases he with he | ⟨-, rfl⟩
      · exact h.least he
      · exact notLess
    · rcases getElem?_concat_cases he with he | ⟨rfl, -⟩
      · exact h.first he lt
      · exact absurd lt (Nat.lt_asymm short)

theorem firstLeast_last {ds : List K} {d : K} (above : ∀ e ∈ ds, d < e) :
    FirstLeast (ds ++ [d]) ds.length d := by
  refine ⟨List.getElem?_concat_length, fun he => ?_, fun he lt => ?_⟩
  · rcases getElem?_concat_cases he with he | ⟨-, rfl⟩
    · exact LawfulScalar.lt_asymm (above _ (List.mem_of_getElem? he))
    · exact fun lt => LawfulScalar.lt_asymm lt lt
  · rcases getElem?_concat_cases he with he | ⟨rfl, -⟩
    · exact above _ (List.mem_of_getElem? he)
    · exact absurd lt (Nat.lt_irrefl _)

theorem firstLeast_leastFrom {seen rest : List K} {best : Nat × K}
    (h : FirstLeast seen best.1 best.2)
    (numbers : ∀ d ∈ seen ++ rest, Scalar.isNaN d = false) :
    FirstLeast (seen ++ rest) (leastFrom best seen.length rest).1
      (leastFrom best seen.length rest).2 := by
  -- Each step moves one number from those that are left to those that were seen.
  induction rest generalizing seen best with
  | nil =>
    rw [List.append_nil]
    exact h
  | cons d rest ih =>
    have split : seen ++ d :: rest = (seen ++ [d]) ++ rest := by simp
    have number : Scalar.isNaN best.2 = false :=
      numbers _ (List.mem_append_left _ (List.mem_of_getElem? h.entry))
    have number' : Scalar.isNaN d = false := numbers d (by simp)
    have next := h.concat (fun e he => numbers e (List.mem_append_left _ he)) d
    have length : (seen ++ [d]).length = seen.length + 1 := by simp
    rw [leastFrom, number, number', Bool.false_or, if_neg Bool.false_ne_true, split, ← length]
    refine ih ?_ (by rwa [← split])
    by_cases less : d < best.2
    · simpa only [if_pos less, decide_eq_true less, if_true] using next
    · simpa only [if_neg less, decide_eq_false less, Bool.false_eq_true, if_false] using next

theorem firstLeast_of_least? {ds : List K} (numbers : ∀ d ∈ ds, Scalar.isNaN d = false)
    {best : Nat × K} (h : least? ds = some best) : FirstLeast ds best.1 best.2 := by
  cases ds with
  | nil => cases h
  | cons d rest =>
    cases h
    have numbers : ∀ e ∈ [d] ++ rest, Scalar.isNaN e = false := numbers
    exact firstLeast_leastFrom (firstLeast_singleton d) numbers

end Scan

/-- Something that is not a number is never replaced. -/
theorem isNaN_leastFrom {rest : List K} {best : Nat × K} {i : Nat}
    (h : Scalar.isNaN best.2 = true ∨ ∃ d ∈ rest, Scalar.isNaN d = true) :
    Scalar.isNaN (leastFrom best i rest).2 = true := by
  induction rest generalizing best i with
  | nil => exact h.resolve_right (by simp)
  | cons d rest ih =>
    rw [leastFrom]
    split
    next nan => exact nan
    next number =>
      apply ih
      cases hd : Scalar.isNaN d with
      | true => exact .inl hd
      | false =>
        obtain ⟨e, he, nan⟩ := h.resolve_left number
        rcases List.mem_cons.1 he with rfl | later
        · exact absurd nan (by simp [hd])
        · exact .inr ⟨e, later, nan⟩

theorem isNaN_of_least? {ds : List K} {best : Nat × K} (h : least? ds = some best) {d : K}
    (hd : d ∈ ds) (nan : Scalar.isNaN d = true) : Scalar.isNaN best.2 = true := by
  cases ds with
  | nil => cases h
  | cons e rest =>
    cases h
    apply isNaN_leastFrom
    rcases List.mem_cons.1 hd with rfl | later
    · exact .inl nan
    · exact .inr ⟨d, later, nan⟩

theorem eq_nil_of_least? {ds : List K} (h : least? ds = none) : ds = [] := by
  cases ds with
  | nil => rfl
  | cons d rest => cases h

/-! ## The nearest waypoint -/

theorem getElem?_squaredDistances (s : Store K) (x y : K) (i : Nat) :
    (s.squaredDistances x y)[i]? = (s.bare i).map (·.squaredDistanceTo x y) := by
  rw [squaredDistances, List.getElem?_map, Array.getElem?_toList, bare, Option.map_map]
  rfl

theorem length_squaredDistances (s : Store K) (x y : K) :
    (s.squaredDistances x y).length = s.size := by
  simp [squaredDistances, size]

/-- One more waypoint has its distance at the end. -/
theorem squaredDistances_of_added {s t : Store K} {w : Waypoint K}
    (added : ∀ i, t.bare i = if i = s.size then some w else s.bare i) (x y : K) :
    t.squaredDistances x y = s.squaredDistances x y ++ [w.squaredDistanceTo x y] := by
  apply List.ext_getElem?
  intro i
  rw [getElem?_squaredDistances, added, List.getElem?_append, length_squaredDistances]
  split
  · next last => rw [if_neg (by omega), last, Nat.sub_self]; rfl
  split
  · rw [getElem?_squaredDistances]
  · next far =>
    have beyond : (s.squaredDistances x y)[i]? = none := by
      rw [List.getElem?_eq_none_iff, length_squaredDistances]
      omega
    rw [← getElem?_squaredDistances, beyond, List.getElem?_eq_none_iff.2]
    rw [List.length_singleton]
    omega

/-- Links play no part in what is near. -/
theorem squaredDistances_congr {s t : Store K} (h : t.bare = s.bare) (x y : K) :
    t.squaredDistances x y = s.squaredDistances x y := by
  apply List.ext_getElem?
  intro i
  rw [getElem?_squaredDistances, getElem?_squaredDistances, h]

theorem nearestWithin_congr {s t : Store K} (h : t.bare = s.bare) (x y threshold : K) :
    t.nearestWithin x y threshold = s.nearestWithin x y threshold := by
  rw [nearestWithin, nearest?, squaredDistances_congr h]
  rfl

omit [Scalar K] in
theorem isObject_eq (s : Store K) (i : Nat) :
    s.isObject i = ((s.bare i).map (·.hasObject)).getD false := by
  rw [isObject, bare, Option.map_map]
  rfl

omit [Scalar K] in
theorem isObject_congr {s t : Store K} (h : t.bare = s.bare) (i : Nat) :
    t.isObject i = s.isObject i := by
  rw [isObject_eq, isObject_eq, h]

omit [Scalar K] in
theorem isObject_of_bare {s : Store K} {i : Nat} {w : Waypoint K} (h : s.bare i = some w) :
    s.isObject i = w.hasObject := by
  rw [isObject_eq, h]
  rfl

omit [Scalar K] in
theorem bare_of_getElem? {s : Store K} {i : Nat} {w : Waypoint K}
    (h : s.waypoints[i]? = some w) : s.bare i = some w.bare := by
  rw [bare, h]
  rfl

omit [Scalar K] in
theorem lt_size_of_bare {s : Store K} {i : Nat} {w : Waypoint K} (h : s.bare i = some w) :
    i < s.size := by
  obtain ⟨v, hv, -⟩ := Option.map_eq_some_iff.1 h
  exact (Array.getElem?_eq_some_iff.1 hv).1

section Nearest

variable [LawfulScalar K] {s : Store K} {x y threshold : K}

theorem nearestWithin_eq_some_iff
    (numbers : ∀ d ∈ s.squaredDistances x y, Scalar.isNaN d = false) {i : Nat} :
    s.nearestWithin x y threshold = some i ↔
      ∃ d, FirstLeast (s.squaredDistances x y) i d ∧ d < Scalar.square threshold := by
  rw [nearestWithin, nearest?]
  cases hbest : least? (s.squaredDistances x y) with
  | none =>
    refine ⟨nofun, ?_⟩
    rintro ⟨d, h, -⟩
    have none := h.entry
    rw [eq_nil_of_least? hbest] at none
    cases none
  | some best =>
    have least := firstLeast_of_least? numbers hbest
    rw [within]
    constructor
    · intro found
      split at found
      · cases found
        exact ⟨best.2, least, by assumption⟩
      · cases found
    · rintro ⟨d, h, near⟩
      obtain rfl := least.unique h
      cases least.entry.symm.trans h.entry
      exact if_pos near

/-- If every distance is a number, no waypoint within the threshold is missed. -/
theorem nearestWithin_eq_none_iff
    (numbers : ∀ d ∈ s.squaredDistances x y, Scalar.isNaN d = false) :
    s.nearestWithin x y threshold = none ↔
      ∀ d ∈ s.squaredDistances x y, ¬ d < Scalar.square threshold := by
  rw [nearestWithin, nearest?]
  cases hbest : least? (s.squaredDistances x y) with
  | none =>
    rw [eq_nil_of_least? hbest]
    exact ⟨fun _ => by simp, fun _ => rfl⟩
  | some best =>
    have least := firstLeast_of_least? numbers hbest
    have member := List.mem_of_getElem? least.entry
    rw [within, ite_eq_right_iff]
    constructor
    · intro far e he
      obtain ⟨j, hj⟩ := List.getElem?_of_mem he
      exact LawfulScalar.not_lt_trans (numbers _ member) (fun near => nomatch far near)
        (least.least hj)
    · intro far near
      exact absurd near (far _ member)

/-- If a waypoint is within the threshold, the answer is a waypoint that comes before it or is
the same: not farther, and nearer if it is younger. -/
theorem exists_nearestWithin
    (numbers : ∀ d ∈ s.squaredDistances x y, Scalar.isNaN d = false) {i : Nat} {w : Waypoint K}
    (hw : s.bare i = some w) (near : w.squaredDistanceTo x y < Scalar.square threshold) :
    ∃ k u, s.nearestWithin x y threshold = some k ∧ s.bare k = some u ∧
      u.squaredDistanceTo x y < Scalar.square threshold ∧
      ¬ w.squaredDistanceTo x y < u.squaredDistanceTo x y ∧
      (i < k → u.squaredDistanceTo x y < w.squaredDistanceTo x y) := by
  have entry : (s.squaredDistances x y)[i]? = some (w.squaredDistanceTo x y) := by
    rw [getElem?_squaredDistances, hw]
    rfl
  cases found : s.nearestWithin x y threshold with
  | none =>
    have far := (nearestWithin_eq_none_iff numbers).1 found
    exact absurd near (far _ (List.mem_of_getElem? entry))
  | some k =>
    obtain ⟨d, least, limit⟩ := (nearestWithin_eq_some_iff numbers).1 found
    have entry' := least.entry
    rw [getElem?_squaredDistances] at entry'
    obtain ⟨u, hu, rfl⟩ := Option.map_eq_some_iff.1 entry'
    exact ⟨k, u, rfl, hu, limit, least.least entry, least.first entry⟩

theorem nearestWithin_of_isNaN {d : K} (hd : d ∈ s.squaredDistances x y)
    (nan : Scalar.isNaN d = true) : s.nearestWithin x y threshold = none := by
  rw [nearestWithin, nearest?]
  cases hbest : least? (s.squaredDistances x y) with
  | none => rfl
  | some best =>
    have hidden := isNaN_of_least? hbest hd nan
    rw [within, if_neg]
    intro near
    cases hidden.symm.trans (LawfulScalar.isNaN_of_lt near).1

theorem numbers_of_nearestWithin {i : Nat} (h : s.nearestWithin x y threshold = some i) :
    ∀ d ∈ s.squaredDistances x y, Scalar.isNaN d = false := by
  intro d hd
  by_contra nan
  rw [nearestWithin_of_isNaN hd (by simpa using nan)] at h
  cases h

theorem bare_of_nearestWithin {i : Nat} (h : s.nearestWithin x y threshold = some i) :
    ∃ w, s.bare i = some w ∧ w.squaredDistanceTo x y < Scalar.square threshold := by
  obtain ⟨d, least, near⟩ := (nearestWithin_eq_some_iff (numbers_of_nearestWithin h)).1 h
  have entry := least.entry
  rw [getElem?_squaredDistances] at entry
  obtain ⟨w, hw, rfl⟩ := Option.map_eq_some_iff.1 entry
  exact ⟨w, hw, near⟩

theorem lt_size_of_nearestWithin {i : Nat} (h : s.nearestWithin x y threshold = some i) :
    i < s.size := by
  obtain ⟨w, hw, -⟩ := bare_of_nearestWithin h
  exact lt_size_of_bare hw

theorem firstLeast_of_nearestWithin {i : Nat} {w : Waypoint K}
    (near : s.nearestWithin x y threshold = some i) (hw : s.bare i = some w) :
    FirstLeast (s.squaredDistances x y) i (w.squaredDistanceTo x y) ∧
      w.squaredDistanceTo x y < Scalar.square threshold := by
  obtain ⟨d, least, limit⟩ := (nearestWithin_eq_some_iff (numbers_of_nearestWithin near)).1 near
  have entry := least.entry
  rw [getElem?_squaredDistances, hw] at entry
  cases entry
  exact ⟨least, limit⟩

/-- The nearest waypoint stays the nearest if it alone moves, and not away. -/
theorem nearestWithin_of_closer {t : Store K} {i : Nat} {w v : Waypoint K}
    (near : s.nearestWithin x y threshold = some i) (hw : s.bare i = some w)
    (hv : t.bare i = some v) (others : ∀ j ≠ i, t.bare j = s.bare j)
    (number : Scalar.isNaN (v.squaredDistanceTo x y) = false)
    (closer : ¬ w.squaredDistanceTo x y < v.squaredDistanceTo x y) :
    t.nearestWithin x y threshold = some i := by
  obtain ⟨least, limit⟩ := firstLeast_of_nearestWithin near hw
  have moved : (t.squaredDistances x y)[i]? = some (v.squaredDistanceTo x y) := by
    rw [getElem?_squaredDistances, hv, Option.map_some]
  have stayed : ∀ j ≠ i, (t.squaredDistances x y)[j]? = (s.squaredDistances x y)[j]? := by
    intro j hj
    rw [getElem?_squaredDistances, getElem?_squaredDistances, others j hj]
  have below : ∀ {e : K}, w.squaredDistanceTo x y < e → v.squaredDistanceTo x y < e :=
    fun lt => (LawfulScalar.lt_or_lt lt number).resolve_left closer
  refine (nearestWithin_eq_some_iff fun e he => ?_).2 ⟨_, ⟨moved, ?_, ?_⟩, below limit⟩
  · obtain ⟨j, hj⟩ := List.getElem?_of_mem he
    by_cases same : j = i
    · subst same
      cases moved.symm.trans hj
      exact number
    · rw [stayed j same] at hj
      exact numbers_of_nearestWithin near e (List.mem_of_getElem? hj)
  · intro j e he
    by_cases same : j = i
    · subst same
      cases moved.symm.trans he
      exact fun lt => LawfulScalar.lt_asymm lt lt
    · rw [stayed j same] at he
      exact LawfulScalar.not_lt_trans (LawfulScalar.isNaN_of_lt limit).1 closer (least.least he)
  · intro j e he lt
    rw [stayed j lt.ne] at he
    exact below (least.first he lt)

end Nearest

/-! ## What is nearby -/

theorem nearestWithin_of_size_eq_zero {s : Store K} (empty : s.size = 0) (x y threshold : K) :
    s.nearestWithin x y threshold = none := by
  have none : s.waypoints = #[] := Array.eq_empty_of_size_eq_zero empty
  rw [nearestWithin, nearest?, squaredDistances, none]
  rfl

theorem nearby_ok (s : Store K) (x y threshold : K) :
    s.nearby (.ok x) (.ok y) threshold = .ok (s.nearestWithin x y threshold) := by
  unfold nearby nearestBelow
  split
  · next empty => rw [nearestWithin_of_size_eq_zero empty]
  · rfl

theorem nearby_of_size_eq_zero {s : Store K} (empty : s.size = 0) (x y : Checked K)
    (threshold : K) : s.nearby x y threshold = .ok none :=
  if_pos empty

theorem nearby_error_left {s : Store K} (inhabited : s.size ≠ 0) (e : Error) (y : Checked K)
    (threshold : K) : s.nearby (.error e) y threshold = .error e :=
  if_neg inhabited

theorem nearby_error_right {s : Store K} (inhabited : s.size ≠ 0) (x : K) (e : Error)
    (threshold : K) : s.nearby (.ok x) (.error e) threshold = .error e :=
  if_neg inhabited

/-! ## The scan as a whole -/

theorem mem_squaredDistances_iff {s : Store K} {x y d : K} :
    d ∈ s.squaredDistances x y ↔
      ∃ (i : Nat) (w : Waypoint K), s.waypoints[i]? = some w ∧ w.squaredDistanceTo x y = d := by
  rw [squaredDistances, List.mem_map]
  constructor
  · rintro ⟨w, hw, rfl⟩
    obtain ⟨i, hi⟩ := Array.getElem?_of_mem (Array.mem_toList_iff.1 hw)
    exact ⟨i, w, hi, rfl⟩
  · rintro ⟨i, w, hw, rfl⟩
    exact ⟨w, Array.mem_toList_iff.2 (Array.mem_of_getElem? hw), rfl⟩

/-- A scan never fails. It finds nothing if there are no waypoints, or if one squared distance is
not a number; between finite spots each is one, even where it is beyond the finite range. If all
of them are numbers, it finds something exactly if some waypoint is within the threshold, and
then the first of the nearest. -/
theorem nearestWithin_first [LawfulDistance K] (s : Store K) (x y threshold : K) :
    let found := s.nearestWithin x y threshold
    let sq := fun w : Waypoint K => w.squaredDistanceTo x y
    s.nearby (.ok x) (.ok y) threshold = .ok found ∧
    (s.size = 0 → found = none) ∧
    (∀ (i : Nat) (w : Waypoint K), s.waypoints[i]? = some w → Scalar.isNaN (sq w) = true →
      found = none) ∧
    (∀ w : Waypoint K, w.IsFinite → Scalar.isFinite x = true → Scalar.isFinite y = true →
      Scalar.isNaN (sq w) = false) ∧
    ((∀ (i : Nat) (w : Waypoint K), s.waypoints[i]? = some w → Scalar.isNaN (sq w) = false) →
      ((∃ i, found = some i) ↔
        ∃ (i : Nat) (w : Waypoint K), s.waypoints[i]? = some w ∧ sq w < threshold * threshold) ∧
      ∀ i : Nat, found = some i → ∃ w, s.waypoints[i]? = some w ∧
        (∀ (j : Nat) (v : Waypoint K), s.waypoints[j]? = some v → ¬ sq v < sq w) ∧
        ∀ (j : Nat) (v : Waypoint K), s.waypoints[j]? = some v → j < i → sq w < sq v) := by
  intro found sq
  refine ⟨nearby_ok s x y threshold, fun empty => nearestWithin_of_size_eq_zero empty x y threshold,
    fun i w hw nan => nearestWithin_of_isNaN (mem_squaredDistances_iff.2 ⟨i, w, hw, rfl⟩) nan,
    fun w hw hx hy => Waypoint.isNaN_squaredDistanceTo hw hx hy, fun all => ?_⟩
  have numbers : ∀ d ∈ s.squaredDistances x y, Scalar.isNaN d = false := by
    intro d hd
    obtain ⟨i, w, hw, rfl⟩ := mem_squaredDistances_iff.1 hd
    exact all i w hw
  have entry : ∀ {j : Nat} {v : Waypoint K}, s.waypoints[j]? = some v →
      (s.squaredDistances x y)[j]? = some (sq v) := by
    intro j v hv
    rw [getElem?_squaredDistances, bare_of_getElem? hv]
    rfl
  constructor
  · constructor
    · rintro ⟨i, hi⟩
      obtain ⟨d, least, near⟩ := (nearestWithin_eq_some_iff numbers).1 hi
      obtain ⟨j, w, hw, rfl⟩ := mem_squaredDistances_iff.1 (List.mem_of_getElem? least.entry)
      exact ⟨j, w, hw, near⟩
    · rintro ⟨i, w, hw, near⟩
      obtain ⟨k, -, hk, -⟩ := exists_nearestWithin numbers (bare_of_getElem? hw) near
      exact ⟨k, hk⟩
  · intro i hi
    obtain ⟨d, least, -⟩ := (nearestWithin_eq_some_iff numbers).1 hi
    obtain ⟨w, hw⟩ := exists_waypoint (lt_size_of_nearestWithin hi)
    cases (entry hw).symm.trans least.entry
    exact ⟨w, hw, fun j v hv => least.least (entry hv), fun j v hv => least.first (entry hv)⟩

/-- A landmark whose squared distance to the origin overflows, and two at the same distance. -/
def landmarks : Store Float where
  waypoints := #[⟨0, 1e200, 0.0, .replicate .unknown, false⟩,
    ⟨1, 1.0, 0.0, .replicate .unknown, false⟩, ⟨2, -1.0, 0.0, .replicate .unknown, true⟩]

theorem nearestWithin_first_landmarks :
    let sq := fun w : Waypoint Float => w.squaredDistanceTo 0.0 0.0
    landmarks.nearestWithin 0.0 0.0 2.0 = some 1 ∧
      (∃ w, landmarks.waypoints[1]? = some w ∧
        (∀ (j : Nat) (v : Waypoint Float), landmarks.waypoints[j]? = some v → ¬ sq v < sq w) ∧
        ∀ (j : Nat) (v : Waypoint Float), landmarks.waypoints[j]? = some v → j < 1 →
          sq w < sq v) ∧
      landmarks.nearestWithin (0.0 / 0.0) 0.0 2.0 = none := by
  intro sq
  have all : ∀ (i : Nat) (w : Waypoint Float), landmarks.waypoints[i]? = some w →
      Scalar.isNaN (sq w) = false := by
    have each : ∀ w ∈ landmarks.waypoints, Scalar.isNaN (sq w) = false := by decide +kernel
    exact fun i w hw => each w (Array.mem_of_getElem? hw)
  have found : landmarks.nearestWithin 0.0 0.0 2.0 = some 1 := by decide +kernel
  obtain ⟨-, -, -, -, numbers⟩ := nearestWithin_first landmarks 0.0 0.0 2.0
  obtain ⟨-, -, nan, -, -⟩ := nearestWithin_first landmarks (0.0 / 0.0) 0.0 2.0
  exact ⟨found, (numbers all).2 1 found, nan 0 _ rfl (by decide +kernel)⟩

end Store

end WaypointMap
