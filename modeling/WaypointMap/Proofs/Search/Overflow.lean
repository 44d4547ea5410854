import WaypointMap.Proofs.Double.Difference
import WaypointMap.Proofs.Graph.Growth
import WaypointMap.Proofs.Search.Passage

/-!
# When a search is refused

A search takes second powers of differences of coordinates. It is refused if such a difference is
finite and its second power is not; nothing else can go wrong with it. Which powers it takes depends
on the waypoints that it expands, all of which can be reached from its start. On a map of moderate
size, every search answers.
-/

namespace WaypointMap

variable {K : Type} [Scalar K]

namespace Scalar

/-- Whether a number is finite, and its second power is not. -/
def PowerOverflows (d : K) : Prop := isFinite d = true ∧ isFinite (secondPower d) = false

instance (d : K) : Decidable (PowerOverflows d) :=
  inferInstanceAs (Decidable (_ ∧ _))

theorem checkedPower_of_overflows {d : K} (h : PowerOverflows d) :
    checkedPower d = .error .squareTooLarge := by
  rw [checkedPower, h.1, h.2]
  rfl

theorem checkedPower_of_not_overflows {d : K} (h : ¬ PowerOverflows d) :
    checkedPower d = .ok (secondPower d) := by
  unfold checkedPower
  split
  next large =>
    rw [Bool.and_eq_true, Bool.not_eq_true'] at large
    exact absurd large h
  next => rfl

end Scalar

/-- Whether the step from a waypoint to another has a difference whose second power is too large. -/
def Waypoint.StepOverflows (w v : Waypoint K) : Prop :=
  Scalar.PowerOverflows (v.x - w.x) ∨ Scalar.PowerOverflows (v.y - w.y)

instance (w v : Waypoint K) : Decidable (w.StepOverflows v) :=
  inferInstanceAs (Decidable (_ ∨ _))

theorem Waypoint.squaredStep_of_overflows {w v : Waypoint K} (h : w.StepOverflows v) :
    w.squaredStep v = .error .squareTooLarge := by
  unfold squaredStep
  by_cases hx : Scalar.PowerOverflows (v.x - w.x)
  · rw [Scalar.checkedPower_of_overflows hx]
    rfl
  · have hy := h.resolve_left hx
    rw [Scalar.checkedPower_of_not_overflows hx, Scalar.checkedPower_of_overflows hy]
    rfl

theorem Waypoint.squaredStep_of_not_overflows {w v : Waypoint K} (h : ¬ w.StepOverflows v) :
    w.squaredStep v = .ok (w.stepCost v) := by
  obtain ⟨hx, hy⟩ := not_or.1 h
  unfold squaredStep
  rw [Scalar.checkedPower_of_not_overflows hx, Scalar.checkedPower_of_not_overflows hy]
  rfl

/-- Whether the step between two positions has a difference whose second power is too large. -/
def Store.StepOverflows (s : Store K) (i j : Nat) : Prop :=
  ∃ w ∈ s.waypoints[i]?, ∃ v ∈ s.waypoints[j]?, w.StepOverflows v

instance (s : Store K) (i j : Nat) : Decidable (s.StepOverflows i j) :=
  inferInstanceAs (Decidable (∃ w ∈ s.waypoints[i]?, ∃ v ∈ s.waypoints[j]?, w.StepOverflows v))

namespace Search

variable {s : Store K} {st st₁ : Search K} {i j u : Nat} {rest : List Nat} {e : Error}

/-! ## Offers and rounds -/

theorem offer_of_overflows (h : s.StepOverflows i j) (st : Search K) :
    offer s i st j = .error .squareTooLarge := by
  obtain ⟨w, hw, v, hv, large⟩ := h
  rw [Option.mem_def] at hw hv
  simp only [offer, Store.fetch, hw, hv, bind, Except.bind, Waypoint.squaredStep_of_overflows large]

theorem offer_of_not_overflows (hs : s.InRange) (linked : s.Linked i j)
    (h : ¬ s.StepOverflows i j) (st : Search K) :
    offer s i st j = .ok (st.offered i j (s.stepCost i j)) := by
  obtain ⟨k, hl⟩ := linked
  obtain ⟨w, hw⟩ := Store.exists_waypoint (Store.lt_size_of_link hl)
  obtain ⟨v, hv⟩ := Store.exists_waypoint (hs hl)
  have fits : ¬ w.StepOverflows v := fun large => h ⟨w, hw, v, hv, large⟩
  have cost : s.stepCost i j = w.stepCost v := by
    rw [Store.stepCost, hw, hv]
  rw [cost]
  exact offer_eq_ok hw hv (Waypoint.squaredStep_of_not_overflows fits)

theorem offerAll_eq_error_iff (hs : s.InRange) {js : List Nat} (linked : ∀ j ∈ js, s.Linked i j) :
    offerAll s i st js = .error e ↔ e = .squareTooLarge ∧ ∃ j ∈ js, s.StepOverflows i j := by
  induction js generalizing st with
  | nil => simp [offerAll]
  | cons j js ih =>
    rw [offerAll, List.exists_mem_cons_iff]
    by_cases large : s.StepOverflows i j
    · rw [offer_of_overflows large]
      simp [large, eq_comm]
    · rw [offer_of_not_overflows hs (linked j (List.mem_cons_self ..)) large]
      dsimp only
      rw [ih fun k hk => linked k (List.mem_cons_of_mem _ hk), or_iff_right large]

theorem round_eq_error_iff (hs : s.InRange) :
    round s i rest st = .error e ↔
      e = .squareTooLarge ∧ st.isFresh i = true ∧ ∃ j, s.Linked i j ∧ s.StepOverflows i j := by
  by_cases fresh : st.isFresh i = true
  · rw [round_of_fresh fresh, expand, offerAll_eq_error_iff hs fun j hj => mem_neighborsAt_iff.1 hj]
    simp only [mem_neighborsAt_iff, fresh, true_and]
  · rw [round_of_stale fresh]
    simp [fresh]

/-! ## Runs -/

theorem mem_expansions_succ_iff (waiting : st.queue = i :: rest) {n k : Nat} {c : Option K} :
    (k, c) ∈ expansions s (n + 1) st ↔
      st.isFresh i = true ∧ (k, c) = (i, st.label i) ∨
        ∃ st₁, round s i rest st = .ok st₁ ∧ (k, c) ∈ expansions s n st₁ := by
  simp only [expansions, waiting]
  cases run : round s i rest st with
  | error e => split <;> simp [*]
  | ok st₁ => split <;> simp [*]

/-- Whether a search expands a waypoint with a link whose step overflows. -/
def Overflows (s : Store K) (st : Search K) : Prop :=
  ∃ n i c j, (i, c) ∈ expansions s n st ∧ s.Linked i j ∧ s.StepOverflows i j

theorem not_overflows_of_nil (waiting : st.queue = []) : ¬ Overflows s st := by
  rintro ⟨n, i, c, j, expanded, -⟩
  cases n with
  | zero => cases expanded
  | succ n =>
    simp only [expansions, waiting] at expanded
    cases expanded

/-- A search overflows in its next round or in a later one. -/
theorem overflows_iff_of_cons (hs : s.InRange) (waiting : st.queue = i :: rest) :
    Overflows s st ↔ round s i rest st = .error .squareTooLarge ∨
      ∃ st₁, round s i rest st = .ok st₁ ∧ Overflows s st₁ := by
  rw [round_eq_error_iff hs]
  constructor
  · rintro ⟨n, k, c, j, expanded, linked, large⟩
    cases n with
    | zero => cases expanded
    | succ n =>
      obtain ⟨fresh, ⟨⟩⟩ | ⟨st₁, run, later⟩ := (mem_expansions_succ_iff waiting).1 expanded
      · exact .inl ⟨rfl, fresh, j, linked, large⟩
      · exact .inr ⟨st₁, run, n, k, c, j, later, linked, large⟩
  · rintro (⟨-, fresh, j, linked, large⟩ | ⟨st₁, run, n, k, c, j, later, linked, large⟩)
    · exact ⟨1, i, st.label i, j, mem_expansions waiting fresh 0, linked, large⟩
    · exact ⟨n + 1, k, c, j, (mem_expansions_succ_iff waiting).2 (.inr ⟨st₁, run, later⟩), linked,
        large⟩

/-- A search overflows at once if a step from its start does. -/
theorem overflows_start (hu : u < s.size) (linked : s.Linked u j) (large : s.StepOverflows u j) :
    Overflows s (.start s.size u) := by
  have fresh : (Search.start s.size u : Search K).isFresh u = true := by
    simp [isFresh, Search.start, hu]
  exact ⟨1, u, _, j, mem_expansions rfl fresh 0, linked, large⟩

/-- A search fails exactly if it overflows, and in no other way. -/
theorem run_eq_error_iff (hs : s.InRange) :
    run s st = .error e ↔ e = .squareTooLarge ∧ Overflows s st := by
  induction st using run.induct s with
  | case1 st waiting =>
    rw [run_of_nil waiting]
    simp [not_overflows_of_nil waiting]
  | case2 st i rest waiting error failed =>
    obtain ⟨rfl, -⟩ := (round_eq_error_iff hs).1 failed
    have large := (overflows_iff_of_cons hs waiting).2 (.inl failed)
    rw [run_of_cons waiting, failed]
    simp [Except.bind, large, eq_comm]
  | case3 st i rest waiting st₁ run₁ smaller ih =>
    rw [run_of_cons waiting, overflows_iff_of_cons hs waiting, run₁]
    simp [Except.bind, ih]

/-! ## What is expanded -/

theorem reaches_offered (linked : s.Linked i j) (hi : s.Reaches u i) (cost : K)
    (h : ∀ k ∈ st.queue, s.Reaches u k) : ∀ k ∈ (st.offered i j cost).queue, s.Reaches u k := by
  unfold offered
  split
  · exact h
  split
  · intro k hk
    rcases List.mem_append.1 hk with hk | hk
    · exact h k hk
    · rw [List.mem_singleton.1 hk]
      exact hi.tail linked
  · exact h

theorem reaches_round (h : ∀ k ∈ i :: rest, s.Reaches u k)
    (run : round s i rest st = .ok st₁) : ∀ k ∈ st₁.queue, s.Reaches u k := by
  have later : ∀ k ∈ rest, s.Reaches u k := fun k hk => h k (List.mem_cons_of_mem _ hk)
  by_cases fresh : st.isFresh i = true
  · rw [round_of_fresh fresh, expand] at run
    refine offerAll_induction (P := fun st => ∀ k ∈ st.queue, s.Reaches u k) ?_ later run
    intro st st' j hj queued offered
    obtain ⟨-, rfl⟩ := eq_offered offered
    exact reaches_offered (mem_neighborsAt_iff.1 hj) (h i (List.mem_cons_self ..)) _ queued
  · rw [round_of_stale fresh] at run
    cases run
    exact later

/-- A search expands only what can be reached. -/
theorem reaches_of_expansions {n : Nat} {c : Option K} (h : ∀ k ∈ st.queue, s.Reaches u k)
    (expanded : (i, c) ∈ expansions s n st) : s.Reaches u i := by
  induction n generalizing st with
  | zero => cases expanded
  | succ n ih =>
    cases waiting : st.queue with
    | nil =>
      simp only [expansions, waiting] at expanded
      cases expanded
    | cons k rest =>
      rw [waiting] at h
      obtain ⟨-, ⟨⟩⟩ | ⟨st₁, run, later⟩ := (mem_expansions_succ_iff waiting).1 expanded
      · exact h i (List.mem_cons_self ..)
      · exact ih (reaches_round h run) later

end Search

namespace Store

open Search

variable [LawfulScalar K] {s : Store K} {u : Nat}

omit [LawfulScalar K] in
theorem spread_eq_error_iff (hs : s.InRange) (hu : u < s.size) {e : Error} :
    s.spread (.int u) = .error e ↔ e = .squareTooLarge ∧ Overflows s (.start s.size u) := by
  rw [spread_int hu, run_eq_error_iff hs]

omit [LawfulScalar K] in
theorem pathToNearest_of_error (hu : u < s.size) {e : Error} (h : s.spread (.int u) = .error e)
    (isMatch : Nat → Bool) : s.pathToNearest (.int u) isMatch = .error e := by
  have resolved := resolve_eq_ok_iff.2 ⟨rfl, hu⟩
  simp only [pathToNearest, resolved, h, bind, Except.bind]

omit [LawfulScalar K] in
theorem pathToNearest_of_overflows (hs : s.InRange) (hu : u < s.size)
    (large : Overflows s (.start s.size u)) (isMatch : Nat → Bool) :
    s.pathToNearest (.int u) isMatch = .error .squareTooLarge :=
  pathToNearest_of_error hu ((spread_eq_error_iff hs hu).2 ⟨rfl, large⟩) isMatch

theorem pathToNearest_of_not_overflows (hs : s.InRange) (hu : u < s.size)
    (small : ¬ Overflows s (.start s.size u)) (isMatch : Nat → Bool) :
    ∃ path, s.pathToNearest (.int u) isMatch = .ok path ∧ ∀ i ∈ path, i < s.size := by
  cases run : s.spread (.int u) with
  | error e => exact absurd ((spread_eq_error_iff hs hu).1 run).2 small
  | ok st =>
    obtain ⟨_, ⟨⟩, -, rooted⟩ := rooted_of_spread run
    exact ⟨_, pathToNearest_int hu run isMatch, rooted.lt_size_of_mem_path isMatch⟩

omit [LawfulScalar K] in
/-- A search does not overflow if no step between waypoints that can be reached does. -/
theorem not_overflows_of_reaches
    (small : ∀ i j, s.Reaches u i → s.Linked i j → ¬ s.StepOverflows i j) :
    ¬ Overflows s (.start s.size u) := by
  rintro ⟨n, i, c, j, expanded, linked, large⟩
  have queued : ∀ k ∈ (Search.start s.size u : Search K).queue, s.Reaches u k := by
    intro k hk
    rw [List.mem_singleton.1 hk]
    exact .refl
  exact small i j (reaches_of_expansions queued expanded) linked large

theorem pathToNearest_refused_iff (hs : s.InRange) (hu : u < s.size) (isMatch : Nat → Bool) :
    ((∃ path, s.pathToNearest (.int u) isMatch = .ok path ∧ ∀ i ∈ path, i < s.size) ∨
      s.pathToNearest (.int u) isMatch = .error .squareTooLarge) ∧
    (s.pathToNearest (.int u) isMatch = .error .squareTooLarge ↔
      Overflows s (.start s.size u)) ∧
    ((∀ i j, s.Reaches u i → s.Linked i j → ¬ s.StepOverflows i j) →
      ∃ path, s.pathToNearest (.int u) isMatch = .ok path) := by
  by_cases large : Overflows s (.start s.size u)
  · have refused := pathToNearest_of_overflows hs hu large isMatch
    refine ⟨.inr refused, iff_of_true refused large, fun small => ?_⟩
    exact absurd large (not_overflows_of_reaches small)
  · obtain ⟨path, answer, below⟩ := pathToNearest_of_not_overflows hs hu large isMatch
    refine ⟨.inl ⟨path, answer, below⟩, iff_of_false ?_ large, fun _ => ⟨path, answer⟩⟩
    rw [answer]
    nofun

/-- Asked from a waypoint of the map, a search for a frontier or for an object answers with
waypoints of the map, or is refused because the second power of a difference is too large; it cannot
fail in another way. It is refused exactly if it expands a waypoint with a link along which that
happens. So it answers if that happens along no link that can be reached. -/
theorem search_refused_iff (hs : s.Reachable) (hu : u < s.size) :
    ∀ search ∈ [s.pathToFrontier, s.pathToObject],
      ((∃ path, search (.int u) = .ok path ∧ ∀ i ∈ path, i < s.size) ∨
        search (.int u) = .error .squareTooLarge) ∧
      (search (.int u) = .error .squareTooLarge ↔ Overflows s (.start s.size u)) ∧
      ((∀ i j, s.Reaches u i → s.Linked i j → ¬ s.StepOverflows i j) →
        ∃ path, search (.int u) = .ok path) := by
  have inRange := hs.wellFormed.inRange
  intro search asked
  rcases List.mem_pair.1 asked with rfl | rfl
  · exact pathToNearest_refused_iff inRange hu s.isFrontier
  · exact pathToNearest_refused_iff inRange hu s.isObject

/-- A spot, one that is far away, and one that takes the place of that one. -/
def outlier : List (Request Float) :=
  [.spot 0.0 .null, .spot 1e200 (.int 0), .spot 1.0 (.int 0)]

/-- The search from the first spot is refused while the far one is linked, and answers later. -/
theorem search_refused_iff_outlier :
    let s := (Request.run (.empty .default) (outlier.take 2)).store
    let t := (Request.run (.empty .default) outlier).store
    s.pathToFrontier (.int 0) = .error .squareTooLarge ∧
      (∃ path, t.pathToFrontier (.int 0) = .ok path) ∧
      ∃ path, t.pathToObject (.int 0) = .ok path := by
  intro s t
  have size : s.size = 2 := by decide +kernel
  have size' : t.size = 3 := by decide +kernel
  have linked : s.Linked 0 1 := ⟨.east, by decide +kernel⟩
  have large : s.StepOverflows 0 1 := by decide +kernel
  have small : ∀ i < 3, ∀ j ∈ neighborsAt t i, ¬ t.StepOverflows i j := by decide +kernel
  have refused := search_refused_iff (s := s) (u := 0) ⟨_, _, rfl⟩ (by omega)
  have answered := search_refused_iff (s := t) (u := 0) ⟨_, _, rfl⟩ (by omega)
  have clear : ∀ i j, t.Reaches 0 i → t.Linked i j → ¬ t.StepOverflows i j := by
    intro i j _ linked
    obtain ⟨h, hl⟩ := linked
    have hi : i < 3 := size' ▸ lt_size_of_link hl
    exact small i hi j (mem_neighborsAt_iff.2 ⟨h, hl⟩)
  exact ⟨(refused s.pathToFrontier (by simp)).2.1.2 (overflows_start (by omega) linked large),
    (answered t.pathToFrontier (by simp)).2.2 clear,
    (answered t.pathToObject (by simp)).2.2 clear⟩

/-- A search may fail on a map of finite placements. -/
theorem pathToFrontier_refused_outlier :
    let s := (Request.run (.empty .default) (outlier.take 2)).store
    (∀ r ∈ outlier.take 2, r.isFinitePlacement = true) ∧ 0 < s.size ∧
      ¬ ∃ path, s.pathToFrontier (.int 0) = .ok path := by
  intro s
  have size : s.size = 2 := by decide +kernel
  have linked : s.Linked 0 1 := ⟨.east, by decide +kernel⟩
  have large : s.StepOverflows 0 1 := by decide +kernel
  have inRange : s.InRange := (Reachable.wellFormed ⟨_, _, rfl⟩).inRange
  refine ⟨by decide +kernel, by omega, ?_⟩
  rintro ⟨path, answer⟩
  have refused : s.pathToFrontier (.int 0) = .error .squareTooLarge :=
    pathToNearest_of_overflows inRange (by omega) (overflows_start (by omega) linked large)
      s.isFrontier
  cases refused.symm.trans answer

end Store

/-! ## Maps of moderate size -/

section Moderate

open Double

/-- Whether a coordinate is less than 1e150 away from zero. -/
def IsModerate (x : Float) : Prop := -1e150 < x ∧ x < 1e150

theorem exists_place_of_moderate {x : Float} (hx : IsModerate x) {k : Nat} (hk : k = 1573) :
    ∃ a, place? x = some a ∧ a.natAbs ≤ 2 ^ k := by
  obtain ⟨low, a, hlow, ha, above⟩ := (lt_iff (-1e150) x).1 hx.1
  obtain ⟨a', high, ha', hhigh, below⟩ := (lt_iff x 1e150).1 hx.2
  cases ha.symm.trans ha'
  have lowest : ∀ b ∈ place? (-1e150), b.natAbs ≤ 2 ^ k := by
    rw [hk]
    decide +kernel
  have highest : ∀ b ∈ place? 1e150, b.natAbs ≤ 2 ^ k := by
    rw [hk]
    decide +kernel
  have := lowest low hlow
  have := highest high hhigh
  refine ⟨a, ha, ?_⟩
  generalize 2 ^ k = bound at *
  omega

theorem not_powerOverflows_of_moderate {x y : Float} (hx : IsModerate x) (hy : IsModerate y) :
    ¬ Scalar.PowerOverflows (x - y) := by
  -- as a variable, the exponent keeps powers of two from being computed
  obtain ⟨k, hk⟩ : ∃ k, k = 1573 := ⟨_, rfl⟩
  obtain ⟨a, ha, hxa⟩ := exists_place_of_moderate hx hk
  obtain ⟨b, hb, hyb⟩ := exists_place_of_moderate hy hk
  have small := two_pow_lt_top (j := k) (by omega)
  have small' := two_pow_lt_top (j := k + 1 + (k + 1) - 1074) (by omega)
  have near : (a - b).natAbs ≤ 2 ^ (k + 1) := by
    rw [pow_succ]
    omega
  obtain ⟨n, hn, le⟩ := exists_place_square_sub_le ha hb (by omega) (hxa.trans_lt small)
    (hyb.trans_lt small) near
  rintro ⟨-, infinite⟩
  have finite : Scalar.isFinite (Scalar.secondPower (x - y)) = true :=
    (isFinite_double_iff _).2 ⟨n, hn, le.trans_lt small'⟩
  cases finite.symm.trans infinite

namespace Store

/-- On a map within moderate coordinates, a search from a waypoint of the map answers. -/
theorem search_answers {s : Store Float} (hs : s.Reachable) {u : Nat} (hu : u < s.size)
    (moderate : ∀ w ∈ s.waypoints, IsModerate w.x ∧ IsModerate w.y) :
    ∀ search ∈ [s.pathToFrontier, s.pathToObject],
      ∃ path, search (.int u) = .ok path ∧ ∀ i ∈ path, i < s.size := by
  have small : ∀ i j, ¬ s.StepOverflows i j := by
    rintro i j ⟨w, hw, v, hv, large | large⟩
    · exact not_powerOverflows_of_moderate (moderate v (Array.mem_of_getElem? hv)).1
        (moderate w (Array.mem_of_getElem? hw)).1 large
    · exact not_powerOverflows_of_moderate (moderate v (Array.mem_of_getElem? hv)).2
        (moderate w (Array.mem_of_getElem? hw)).2 large
  have answers := pathToNearest_of_not_overflows hs.wellFormed.inRange hu
    (not_overflows_of_reaches fun i j _ _ => small i j)
  intro search asked
  rcases List.mem_pair.1 asked with rfl | rfl
  · exact answers s.isFrontier
  · exact answers s.isObject

end Store

end Moderate

end WaypointMap
