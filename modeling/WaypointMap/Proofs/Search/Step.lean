import WaypointMap.Proofs.Scalar
import WaypointMap.Search
import WaypointMap.Store.Lemmas

/-!
# Steps of a search

What a search does is a sequence of offers: a waypoint offers its label, plus the cost of the
step, to a neighbor. An offer sets one label and one predecessor, or nothing. What offers
preserve, a whole search preserves.
-/

namespace WaypointMap

/-- What a step from a waypoint to another costs: their squared distance, whether or not it leaves
the finite range. -/
def Waypoint.stepCost {K : Type} [Scalar K] (w v : Waypoint K) : K :=
  Scalar.secondPower (v.x - w.x) + Scalar.secondPower (v.y - w.y)

namespace Store

variable {K : Type}

/-- Whether some link of `i` leads to `j`. -/
def Linked (s : Store K) (i j : Nat) : Prop := ∃ h, s.link i h = some (.leadsTo j)

/-- What a step from one position to another costs. -/
def stepCost [Scalar K] (s : Store K) (i j : Nat) : K :=
  match s.waypoints[i]?, s.waypoints[j]? with
  | some w, some v => w.stepCost v
  | _, _ => 0.0

end Store

theorem Waypoint.mem_neighbors_iff {K : Type} {w : Waypoint K} {j : Nat} :
    j ∈ w.neighbors ↔ ∃ h, w.links.get h = .leadsTo j := by
  have target : ∀ l : Link, l.target? = some j ↔ l = .leadsTo j := by
    intro l
    cases l <;> simp [Link.target?]
  have every : ∀ h, h ∈ Heading.all := by
    intro h
    cases h <;> decide
  simp [neighbors, exits, every, target]

section Costs

variable {K : Type} [Scalar K]

theorem Scalar.eq_of_checkedPower {d c : K} (h : checkedPower d = .ok c) :
    c = secondPower d := by
  unfold checkedPower at h
  split at h
  · cases h
  · cases h
    rfl

theorem Scalar.checkedPower_of_isFinite {d : K} (h : isFinite (secondPower d) = true) :
    checkedPower d = .ok (secondPower d) := by
  simp [checkedPower, h]

theorem Waypoint.eq_of_squaredStep {w v : Waypoint K} {c : K} (h : w.squaredStep v = .ok c) :
    c = w.stepCost v := by
  simp only [squaredStep, bind, Except.bind, pure, Except.pure] at h
  split at h
  · cases h
  next dx hx =>
  split at h
  · cases h
  next dy hy =>
  cases h
  rw [Scalar.eq_of_checkedPower hx, Scalar.eq_of_checkedPower hy]
  rfl

variable [LawfulScalar K]

theorem Waypoint.squaredStep_of_isFinite {w v : Waypoint K}
    (h : Scalar.isFinite (w.stepCost v) = true) : w.squaredStep v = .ok (w.stepCost v) := by
  obtain ⟨hx, hy⟩ := LawfulScalar.isFinite_of_add h
  simp only [squaredStep, Scalar.checkedPower_of_isFinite hx, Scalar.checkedPower_of_isFinite hy]
  rfl

theorem Waypoint.not_stepCost_lt_zero (w v : Waypoint K) : ¬ w.stepCost v < 0.0 :=
  LawfulScalar.not_add_lt_zero (LawfulScalar.not_secondPower_lt_zero _)
    (LawfulScalar.not_secondPower_lt_zero _)

theorem Store.not_stepCost_lt_zero (s : Store K) (i j : Nat) : ¬ s.stepCost i j < 0.0 := by
  unfold stepCost
  split
  · exact Waypoint.not_stepCost_lt_zero _ _
  · intro lt
    exact LawfulScalar.lt_asymm lt lt

end Costs

namespace Search

variable {K : Type}

theorem mem_neighborsAt_iff {s : Store K} {i j : Nat} :
    j ∈ neighborsAt s i ↔ s.Linked i j := by
  unfold neighborsAt Store.Linked Store.link
  cases hw : s.waypoints[i]? with
  | none => simp
  | some w => simp [Waypoint.mem_neighbors_iff]

variable {s : Store K} {st st' : Search K} {i j k : Nat}

/-! ## Labels -/

theorem label_improve {cost : K} (hj : j < st.labels.size) :
    (st.improve i j cost).label k = if j = k then some cost else st.label k := by
  simp only [improve, label, Array.getD_eq_getD_getElem?, Array.getElem?_setIfInBounds]
  by_cases same : j = k
  · subst same
    simp [hj]
  · simp [same]

theorem predecessor_improve {cost : K} (hj : j < st.predecessors.size) :
    (st.improve i j cost).predecessor k = if j = k then some i else st.predecessor k := by
  simp only [improve, predecessor, Array.getD_eq_getD_getElem?, Array.getElem?_setIfInBounds]
  by_cases same : j = k
  · subst same
    simp [hj]
  · simp [same]

theorem lt_size_of_label {c : K} (h : st.label j = some c) : j < st.labels.size := by
  by_contra large
  simp [label, Array.getD, large] at h

variable [Scalar K]

/-! ## Offers -/

/-- The search after `i` has offered its label to `j` over a step of some cost. -/
def offered (st : Search K) (i j : Nat) (step : K) : Search K :=
  match st.label i with
  | none => st
  | some cost =>
    if improves (cost + step) (st.label j) then st.improve i j (cost + step) else st

/-- A link of a waypoint to itself offers at least its own label. -/
theorem ne_of_improves [LawfulScalar K] {cost : K} (hi : st.label i = some cost)
    (better : improves (cost + s.stepCost i j) (st.label j) = true) : j ≠ i := by
  rintro rfl
  rw [hi] at better
  exact LawfulScalar.not_add_lt (s.not_stepCost_lt_zero j j) (of_decide_eq_true better)

theorem offer_eq_ok {w v : Waypoint K} {step : K} (hw : s.waypoints[i]? = some w)
    (hv : s.waypoints[j]? = some v) (hstep : w.squaredStep v = .ok step) :
    offer s i st j = .ok (st.offered i j step) := by
  simp only [offer, Store.fetch, hw, hv, hstep, bind, Except.bind, offered]
  cases st.label i with
  | none => rfl
  | some cost => dsimp only; split <;> rfl

theorem eq_offered (h : offer s i st j = .ok st') :
    j < s.size ∧ st' = st.offered i j (s.stepCost i j) := by
  cases hw : s.waypoints[i]? with
  | none => simp [offer, Store.fetch, hw, bind, Except.bind] at h
  | some w =>
    cases hv : s.waypoints[j]? with
    | none => simp [offer, Store.fetch, hw, hv, bind, Except.bind] at h
    | some v =>
      cases hstep : w.squaredStep v with
      | error e => simp [offer, Store.fetch, hw, hv, hstep, bind, Except.bind] at h
      | ok step =>
        rw [offer_eq_ok hw hv hstep] at h
        cases h
        refine ⟨(Array.getElem?_eq_some_iff.1 hv).1, ?_⟩
        rw [Waypoint.eq_of_squaredStep hstep, Store.stepCost, hw, hv]

/-! ## Runs -/

/-- What every offer preserves, the offers of one waypoint preserve. -/
theorem offerAll_induction {P : Search K → Prop} {js : List Nat}
    (offer_ : ∀ st st' j, j ∈ js → P st → offer s i st j = .ok st' → P st')
    (hP : P st) (h : offerAll s i st js = .ok st') : P st' := by
  induction js generalizing st with
  | nil =>
    cases h
    exact hP
  | cons j js ih =>
    simp only [offerAll] at h
    split at h
    · cases h
    next st₁ h₁ =>
    refine ih (fun st st' j hj => offer_ st st' j (List.mem_cons_of_mem _ hj)) ?_ h
    exact offer_ st st₁ j (List.mem_cons_self ..) hP h₁

theorem round_of_fresh (fresh : st.isFresh i = true) (rest : List Nat) :
    round s i rest st = expand s i { st with queue := rest } :=
  if_pos fresh

theorem round_of_stale (stale : ¬ st.isFresh i = true) (rest : List Nat) :
    round s i rest st = .ok { st with queue := rest } :=
  if_neg stale

theorem run_of_nil (waiting : st.queue = []) : run s st = .ok st := by
  unfold run
  split
  · rfl
  next i rest waiting' =>
    rw [waiting] at waiting'
    cases waiting'

theorem run_of_cons {rest : List Nat} (waiting : st.queue = i :: rest) :
    run s st = (round s i rest st).bind (run s) := by
  conv_lhs => unfold run
  split
  next waiting' =>
    rw [waiting] at waiting'
    cases waiting'
  next i' rest' waiting' =>
    rw [waiting] at waiting'
    cases waiting'
    split
    next e h =>
      rw [h]
      rfl
    next st₁ h =>
      have continued : (round s i rest st).bind (run s) = run s st₁ := by
        rw [h]
        rfl
      exact continued.symm

/-- At most some number of rounds. -/
def rounds (s : Store K) : Nat → Search K → Checked (Search K)
  | 0, st => .ok st
  | n + 1, st =>
    match st.queue with
    | [] => .ok st
    | i :: rest => (round s i rest st).bind (rounds s n)

/-- The waypoints that at most some number of rounds expand, each with its label at that time. -/
def expansions (s : Store K) : Nat → Search K → List (Nat × Option K)
  | 0, _ => []
  | n + 1, st =>
    match st.queue with
    | [] => []
    | i :: rest =>
      let later := match round s i rest st with
        | .error _ => []
        | .ok st' => expansions s n st'
      if st.isFresh i then (i, st.label i) :: later else later

theorem rounds_succ {n : Nat} {rest : List Nat} (waiting : st.queue = i :: rest) :
    rounds s (n + 1) st = (round s i rest st).bind (rounds s n) := by
  rw [rounds]
  simp only [waiting]

theorem expansions_succ {n : Nat} {rest : List Nat} (waiting : st.queue = i :: rest)
    (h : round s i rest st = .ok st') :
    expansions s (n + 1) st =
      if st.isFresh i then (i, st.label i) :: expansions s n st' else expansions s n st' := by
  rw [expansions]
  simp only [waiting, h]

theorem mem_expansions {rest : List Nat} (waiting : st.queue = i :: rest)
    (fresh : st.isFresh i = true) (n : Nat) : (i, st.label i) ∈ expansions s (n + 1) st := by
  rw [expansions]
  simp only [waiting, fresh, if_true]
  exact List.mem_cons_self ..

/-- Rounds after which nothing waits are a whole search. -/
theorem run_of_rounds {n : Nat} (h : rounds s n st = .ok st') (ended : st'.queue = []) :
    run s st = .ok st' := by
  induction n generalizing st with
  | zero =>
    cases h
    exact run_of_nil ended
  | succ n ih =>
    cases waiting : st.queue with
    | nil =>
      simp only [rounds, waiting] at h
      cases h
      exact run_of_nil waiting
    | cons i rest =>
      rw [rounds_succ waiting] at h
      rw [run_of_cons waiting]
      cases hr : round s i rest st with
      | error e =>
        rw [hr] at h
        cases h
      | ok st₁ =>
        rw [hr] at h
        exact ih h

/-- Once nothing waits, further rounds expand nothing. -/
theorem expansions_subset {m : Nat} (h : rounds s m st = .ok st') (ended : st'.queue = [])
    (n : Nat) : expansions s n st ⊆ expansions s m st := by
  induction m generalizing st n with
  | zero =>
    cases h
    cases n with
    | zero => exact List.Subset.refl _
    | succ n =>
      have none : expansions s (n + 1) st' = [] := by simp only [expansions, ended]
      rw [none]
      exact List.nil_subset _
  | succ m ih =>
    cases n with
    | zero => exact List.nil_subset _
    | succ n =>
      cases waiting : st.queue with
      | nil =>
        have none : expansions s (n + 1) st = [] := by simp only [expansions, waiting]
        rw [none]
        exact List.nil_subset _
      | cons i rest =>
        rw [rounds_succ waiting] at h
        cases hr : round s i rest st with
        | error e =>
          rw [hr] at h
          cases h
        | ok st₁ =>
          rw [hr] at h
          rw [expansions_succ waiting hr, expansions_succ waiting hr]
          split
          · exact List.cons_subset_cons _ (ih h n)
          · exact ih h n

/-- What every round preserves, a whole search preserves; it ends without a queue. -/
theorem run_induction {P : Search K → Prop}
    (round_ : ∀ st i rest st', st.queue = i :: rest → P st → round s i rest st = .ok st' → P st')
    (hP : P st) (h : run s st = .ok st') : P st' ∧ st'.queue = [] := by
  induction st using run.induct s with
  | case1 st waiting =>
    rw [run_of_nil waiting] at h
    cases h
    exact ⟨hP, waiting⟩
  | case2 st i rest waiting e he =>
    rw [run_of_cons waiting, he] at h
    cases h
  | case3 st i rest waiting st₁ h₁ smaller ih =>
    rw [run_of_cons waiting, h₁] at h
    exact ih (round_ st i rest st₁ waiting hP h₁) h

/-- What does not depend on the queue or on what is expanded, and is preserved when a label is
improved along a link, a round preserves. -/
theorem round_of_improve {P : Search K → Prop}
    (aside : ∀ st expanded queue, P st → P { st with expanded := expanded, queue := queue })
    (improve_ : ∀ st i j cost, s.Linked i j → j < s.size → st.label i = some cost →
      improves (cost + s.stepCost i j) (st.label j) = true → P st →
      P (st.improve i j (cost + s.stepCost i j)))
    (hP : P st) {rest : List Nat} (run : round s i rest st = .ok st') : P st' := by
  by_cases fresh : st.isFresh i = true
  · rw [round_of_fresh fresh] at run
    have opened : P { st with queue := rest, expanded := st.expanded.setIfInBounds i true } :=
      aside st _ rest hP
    refine offerAll_induction ?_ opened run
    intro st st' j hj hP offer
    obtain ⟨hj', rfl⟩ := eq_offered offer
    unfold offered
    split
    · exact hP
    next cost hi =>
      split
      · next better => exact improve_ st i j cost (mem_neighborsAt_iff.1 hj) hj' hi better hP
      · exact hP
  · rw [round_of_stale fresh] at run
    cases run
    exact aside st st.expanded rest hP

/-- What such rounds preserve, a whole search preserves. -/
theorem run_of_improve {P : Search K → Prop}
    (aside : ∀ st expanded queue, P st → P { st with expanded := expanded, queue := queue })
    (improve_ : ∀ st i j cost, s.Linked i j → j < s.size → st.label i = some cost →
      improves (cost + s.stepCost i j) (st.label j) = true → P st →
      P (st.improve i j (cost + s.stepCost i j)))
    (hP : P st) (h : run s st = .ok st') : P st' :=
  (run_induction (fun _ _ _ _ _ hP run => round_of_improve aside improve_ hP run) hP h).1

end Search

end WaypointMap
