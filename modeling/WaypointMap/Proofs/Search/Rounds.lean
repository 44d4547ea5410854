import WaypointMap.Proofs.Search.Reach
import WaypointMap.Proofs.Store.Lead

/-!
# How long a search takes

Every round takes a waypoint from the queue. Besides the start, which is there from the beginning, a
waypoint gets into the queue only by a push along a link, when the waypoint at the other end is
expanded. As no waypoint is expanded twice, no link pushes twice in the same direction, which bounds
the rounds of every search, whatever its costs are and also if it fails.
-/

namespace WaypointMap

variable {K : Type}

namespace Store

variable {s : Store K} {i : Nat}

/-- The links of the waypoint at a position. -/
def leadsAt (s : Store K) (i : Nat) : List Lead := (s.waypoints[i]?.map (·.leads)).getD []

theorem neighborsAt_eq_map_leadsAt (s : Store K) (i : Nat) :
    Search.neighborsAt s i = (s.leadsAt i).map Lead.target := by
  unfold Search.neighborsAt leadsAt
  cases s.waypoints[i]? with
  | none => rfl
  | some w => simp [Waypoint.leads, Waypoint.neighbors]

theorem nodup_leadsAt (s : Store K) (i : Nat) : (s.leadsAt i).Nodup := by
  unfold leadsAt
  cases s.waypoints[i]? with
  | none => exact List.nodup_nil
  | some w => exact w.nodup_leads

theorem mem_leadsAt_iff (hs : s.WellFormed) {l : Lead} :
    l ∈ s.leadsAt i ↔ l.source = i ∧ s.link i l.heading = some (.leadsTo l.target) := by
  unfold leadsAt link
  cases hw : s.waypoints[i]? with
  | none => simp
  | some w => simp [Waypoint.mem_leads_iff, hs.ids hw]

end Store

namespace Search

variable [Scalar K]

/-! ## What leaves the queue and what is pushed -/

/-- The links along which the offers of `i` push a waypoint, in their order. -/
def pushesAlong (s : Store K) (i : Nat) (st : Search K) : List Lead → List Lead
  | [] => []
  | l :: rest =>
    match offer s i st l.target with
    | .error _ => []
    | .ok st' =>
      if st'.queue = st.queue then pushesAlong s i st' rest else l :: pushesAlong s i st' rest

/-- The links along which a round for `i` pushes a waypoint. -/
def pushesIn (s : Store K) (i : Nat) (rest : List Nat) (st : Search K) : List Lead :=
  if st.isFresh i then
    pushesAlong s i { st with queue := rest, expanded := st.expanded.setIfInBounds i true }
      (s.leadsAt i)
  else []

/-- The links along which at most some number of rounds push a waypoint, in their order. -/
def pushes (s : Store K) : Nat → Search K → List Lead
  | 0, _ => []
  | n + 1, st =>
    match st.queue with
    | [] => []
    | i :: rest =>
      pushesIn s i rest st ++
        match round s i rest st with
        | .error _ => []
        | .ok st' => pushes s n st'

/-- The waypoints that leave the queue in at most some number of rounds, in their order. -/
def pops (s : Store K) : Nat → Search K → List Nat
  | 0, _ => []
  | n + 1, st =>
    match st.queue with
    | [] => []
    | i :: rest =>
      i ::
        match round s i rest st with
        | .error _ => []
        | .ok st' => pops s n st'

variable {s : Store K} {st st' : Search K} {i j n source : Nat} {rest : List Nat}

/-- An offer leaves the queue as it is, or it improves a label and pushes its waypoint. -/
theorem queue_offer (h : offer s i st j = .ok st') :
    st'.queue = st.queue ∨ st'.queue = st.queue ++ [j] ∧
      ∃ cost, st.label i = some cost ∧
        improves (cost + s.stepCost i j) (st.label j) = true := by
  obtain ⟨-, rfl⟩ := eq_offered h
  unfold offered
  split
  · exact .inl rfl
  next cost hi =>
    split
    · next better => exact .inr ⟨rfl, cost, hi, better⟩
    · exact .inl rfl

theorem pushesAlong_sublist (leads : List Lead) : (pushesAlong s i st leads).Sublist leads := by
  induction leads generalizing st with
  | nil => exact .slnil
  | cons l rest ih =>
    rw [pushesAlong]
    split
    · exact List.nil_sublist _
    · split
      · exact ih.cons l
      · exact ih.cons_cons l

/-- What the offers of a waypoint push is at the end of the queue. -/
theorem queue_offerAll {leads : List Lead}
    (h : offerAll s i st (leads.map Lead.target) = .ok st') :
    st'.queue = st.queue ++ (pushesAlong s i st leads).map Lead.target := by
  induction leads generalizing st with
  | nil =>
    cases h
    exact (List.append_nil _).symm
  | cons l rest ih =>
    simp only [List.map_cons, offerAll] at h
    split at h
    · cases h
    next st₁ h₁ =>
    rw [pushesAlong]
    simp only [h₁]
    obtain same | ⟨pushed, -⟩ := queue_offer h₁
    · rw [if_pos same, ih h, same]
    · rw [if_neg (by simp [pushed]), ih h, pushed, List.map_cons, List.append_assoc]
      rfl

/-- What a round pushes is at the end of the queue. -/
theorem queue_round (h : round s i rest st = .ok st') :
    st'.queue = rest ++ (pushesIn s i rest st).map Lead.target := by
  unfold pushesIn
  by_cases fresh : st.isFresh i = true
  · rw [round_of_fresh fresh, expand, Store.neighborsAt_eq_map_leadsAt] at h
    rw [if_pos fresh]
    exact queue_offerAll h
  · rw [round_of_stale fresh] at h
    cases h
    rw [if_neg fresh]
    exact (List.append_nil _).symm

theorem pushes_of_ok (waiting : st.queue = i :: rest) (h : round s i rest st = .ok st') (n : Nat) :
    pushes s (n + 1) st = pushesIn s i rest st ++ pushes s n st' := by
  rw [pushes]
  simp only [waiting, h]

theorem pushes_of_error (waiting : st.queue = i :: rest) {e : Error}
    (h : round s i rest st = .error e) (n : Nat) :
    pushes s (n + 1) st = pushesIn s i rest st := by
  rw [pushes]
  simp only [waiting, h, List.append_nil]

theorem pops_of_ok (waiting : st.queue = i :: rest) (h : round s i rest st = .ok st') (n : Nat) :
    pops s (n + 1) st = i :: pops s n st' := by
  rw [pops]
  simp only [waiting, h]

theorem pops_of_error (waiting : st.queue = i :: rest) {e : Error}
    (h : round s i rest st = .error e) (n : Nat) : pops s (n + 1) st = [i] := by
  rw [pops]
  simp only [waiting, h]

/-- First in, first out: what left the queue and what still waits is what waited at first and then
what was pushed. -/
theorem exists_waiting (s : Store K) (n : Nat) (st : Search K) :
    ∃ queue, pops s n st ++ queue = st.queue ++ (pushes s n st).map Lead.target ∧
      ∀ st', rounds s n st = .ok st' → st'.queue = queue := by
  induction n generalizing st with
  | zero =>
    refine ⟨st.queue, (List.append_nil _).symm, ?_⟩
    intro st' h
    cases h
    rfl
  | succ n ih =>
    cases waiting : st.queue with
    | nil =>
      refine ⟨[], by simp [pops, pushes, waiting], ?_⟩
      intro st' h
      simp only [rounds, waiting] at h
      cases h
      exact waiting
    | cons i rest =>
      simp only [rounds_succ waiting]
      cases run : round s i rest st with
      | error e =>
        refine ⟨rest ++ (pushesIn s i rest st).map Lead.target, ?_, ?_⟩
        · rw [pops_of_error waiting run, pushes_of_error waiting run]
          rfl
        · intro st' h
          cases h
      | ok st₁ =>
        obtain ⟨queue, all, last⟩ := ih st₁
        refine ⟨queue, ?_, last⟩
        rw [pops_of_ok waiting run, pushes_of_ok waiting run, List.cons_append, all,
          queue_round run, List.map_append, List.append_assoc]
        rfl

/-! ## What happens once -/

omit [Scalar K] in
theorem isFresh_skip (stale : ¬ st.isFresh i = true) (j : Nat) :
    st.isFresh j = (!(j == i) && st.isFresh j) := by
  by_cases same : j = i
  · subst same
    simp [Bool.eq_false_iff.2 stale]
  · simp [same]

/-- After a round its waypoint is not fresh, and all others are as they were. -/
theorem isFresh_round (h : round s i rest st = .ok st') (j : Nat) :
    st'.isFresh j = (!(j == i) && st.isFresh j) := by
  by_cases fresh : st.isFresh i = true
  · rw [round_of_fresh fresh] at h
    rw [← isFresh_setExpanded st rest, isFresh, isFresh, expanded_offerAll h]
  · rw [round_of_stale fresh] at h
    cases h
    exact isFresh_skip fresh j

theorem fresh_of_later (h : round s i rest st = .ok st') (fresh : st'.isFresh j = true) :
    j ≠ i ∧ st.isFresh j = true := by
  rw [isFresh_round h, Bool.and_eq_true, Bool.not_eq_true', beq_eq_false_iff_ne] at fresh
  exact fresh

theorem expansions_of_error (waiting : st.queue = i :: rest) {e : Error}
    (h : round s i rest st = .error e) (n : Nat) :
    expansions s (n + 1) st = if st.isFresh i then [(i, st.label i)] else [] := by
  rw [expansions]
  simp only [waiting, h]

/-- What is expanded was fresh, and no waypoint is expanded twice. -/
theorem expansions_once (s : Store K) (n : Nat) (st : Search K) :
    (∀ x ∈ expansions s n st, st.isFresh x.1 = true) ∧
      ((expansions s n st).map Prod.fst).Nodup := by
  induction n generalizing st with
  | zero => exact ⟨fun x hx => absurd hx List.not_mem_nil, List.nodup_nil⟩
  | succ n ih =>
    cases waiting : st.queue with
    | nil => simp [expansions, waiting]
    | cons i rest =>
      cases run : round s i rest st with
      | error e =>
        rw [expansions_of_error waiting run]
        split
        next fresh => simp [fresh]
        next => simp
      | ok st₁ =>
        obtain ⟨fresh₁, nodup⟩ := ih st₁
        have later : ∀ x ∈ expansions s n st₁, x.1 ≠ i ∧ st.isFresh x.1 = true := fun x hx =>
          fresh_of_later run (fresh₁ x hx)
        rw [expansions_succ waiting run]
        split
        next fresh =>
          constructor
          · intro x hx
            obtain rfl | hx := List.mem_cons.1 hx
            · exact fresh
            · exact (later x hx).2
          · rw [List.map_cons, List.nodup_cons]
            refine ⟨fun again => ?_, nodup⟩
            obtain ⟨x, hx, same⟩ := List.mem_map.1 again
            exact (later x hx).1 same
        next => exact ⟨fun x hx => (later x hx).2, nodup⟩

theorem pushesIn_sublist : (pushesIn s i rest st).Sublist (s.leadsAt i) := by
  unfold pushesIn
  split
  · exact pushesAlong_sublist _
  · exact List.nil_sublist _

theorem fresh_of_mem_pushesIn {l : Lead} (hl : l ∈ pushesIn s i rest st) :
    st.isFresh i = true := by
  by_contra stale
  rw [pushesIn, if_neg stale] at hl
  cases hl

/-- A link pushes when its waypoint is expanded, so it pushes once. -/
theorem pushes_once (hs : s.WellFormed) (n : Nat) (st : Search K) :
    (∀ l ∈ pushes s n st, st.isFresh l.source = true ∧
      s.link l.source l.heading = some (.leadsTo l.target)) ∧ (pushes s n st).Nodup := by
  induction n generalizing st with
  | zero => exact ⟨fun l hl => absurd hl List.not_mem_nil, List.nodup_nil⟩
  | succ n ih =>
    cases waiting : st.queue with
    | nil => simp [pushes, waiting]
    | cons i rest =>
      have first : ∀ l ∈ pushesIn s i rest st, l.source = i ∧
          s.link i l.heading = some (.leadsTo l.target) := fun l hl =>
        (Store.mem_leadsAt_iff hs).1 (pushesIn_sublist.subset hl)
      have valid : ∀ l ∈ pushesIn s i rest st, st.isFresh l.source = true ∧
          s.link l.source l.heading = some (.leadsTo l.target) := by
        intro l hl
        obtain ⟨source, slot⟩ := first l hl
        rw [source]
        exact ⟨fresh_of_mem_pushesIn hl, slot⟩
      have nodup : (pushesIn s i rest st).Nodup := pushesIn_sublist.nodup (s.nodup_leadsAt i)
      cases run : round s i rest st with
      | error e =>
        rw [pushes_of_error waiting run]
        exact ⟨valid, nodup⟩
      | ok st₁ =>
        obtain ⟨valid₁, nodup₁⟩ := ih st₁
        have later : ∀ l ∈ pushes s n st₁, l.source ≠ i ∧ st.isFresh l.source = true :=
          fun l hl => fresh_of_later run (valid₁ l hl).1
        rw [pushes_of_ok waiting run]
        constructor
        · intro l hl
          obtain hl | hl := List.mem_append.1 hl
          · exact valid l hl
          · exact ⟨(later l hl).2, (valid₁ l hl).2⟩
        · apply nodup.append nodup₁
          intro l hl again
          exact (later l again).1 (first l hl).1

/-! ## The start -/

section Start

variable [LawfulScalar K]

theorem Rooted.offered (h : Rooted s source st) (linked : s.Linked i j) (hj : j < s.size) :
    Rooted s source (st.offered i j (s.stepCost i j)) := by
  unfold Search.offered
  split
  · exact h
  next cost hi =>
    split
    next better => exact h.improve linked hj hi (s.not_stepCost_lt_zero i j) better
    next => exact h

theorem Rooted.ne_of_mem_pushesAlong (h : Rooted s source st) {leads : List Lead}
    (linked : ∀ l ∈ leads, s.Linked i l.target) {l : Lead} (hl : l ∈ pushesAlong s i st leads) :
    l.target ≠ source := by
  induction leads generalizing st with
  | nil => cases hl
  | cons first rest ih =>
    rw [pushesAlong] at hl
    split at hl
    · cases hl
    next st₁ offer =>
    have linked' : ∀ l ∈ rest, s.Linked i l.target := fun l hl =>
      linked l (List.mem_cons_of_mem first hl)
    have rooted : Rooted s source st₁ := by
      obtain ⟨inside, rfl⟩ := eq_offered offer
      exact h.offered (linked first List.mem_cons_self) inside
    split at hl
    next => exact ih rooted linked' hl
    next pushed =>
      obtain rfl | hl := List.mem_cons.1 hl
      · obtain same | ⟨-, cost, hi, better⟩ := queue_offer offer
        · exact absurd same pushed
        · exact h.ne_source_of_improves hi (s.not_stepCost_lt_zero i _) better
      · exact ih rooted linked' hl

theorem Rooted.ne_of_mem_pushesIn (h : Rooted s source st) {l : Lead}
    (hl : l ∈ pushesIn s i rest st) : l.target ≠ source := by
  unfold pushesIn at hl
  split at hl
  · have opened : Rooted s source
        { st with queue := rest, expanded := st.expanded.setIfInBounds i true } := { h with }
    refine opened.ne_of_mem_pushesAlong (fun l hl => mem_neighborsAt_iff.1 ?_) hl
    rw [Store.neighborsAt_eq_map_leadsAt]
    exact List.mem_map_of_mem hl
  · cases hl

/-- The label of the start is zero, so no offer improves it. -/
theorem Rooted.ne_of_mem_pushes (h : Rooted s source st) {l : Lead} (hl : l ∈ pushes s n st) :
    l.target ≠ source := by
  induction n generalizing st with
  | zero => cases hl
  | succ n ih =>
    cases waiting : st.queue with
    | nil =>
      simp only [pushes, waiting] at hl
      cases hl
    | cons i rest =>
      cases run : Search.round s i rest st with
      | error e =>
        rw [pushes_of_error waiting run] at hl
        exact h.ne_of_mem_pushesIn hl
      | ok st₁ =>
        rw [pushes_of_ok waiting run] at hl
        obtain hl | hl := List.mem_append.1 hl
        · exact h.ne_of_mem_pushesIn hl
        · exact ih (h.round run) hl

end Start

/-! ## The number of rounds -/

/-- There are no more pushes than links. -/
theorem length_pushes_le (hs : s.WellFormed) (n : Nat) (st : Search K) :
    (pushes s n st).length ≤ 4 * s.size := by
  obtain ⟨valid, nodup⟩ := pushes_once hs n st
  have subset : pushes s n st ⊆ s.leads := fun l hl => (Store.mem_leads_iff hs).2 (valid l hl).2
  exact (nodup.subperm subset).length_le.trans s.length_leads_le

theorem length_pops_le (hs : s.WellFormed) (n : Nat) (st : Search K) :
    (pops s n st).length ≤ st.queue.length + 4 * s.size := by
  obtain ⟨queue, all, -⟩ := exists_waiting s n st
  have length := congrArg List.length all
  rw [List.length_append, List.length_append, List.length_map] at length
  have pushed := length_pushes_le hs n st
  omega

/-- As long as something waits, every round takes a waypoint from the queue. -/
theorem length_pops (h : rounds s n st = .ok st') (waits : st'.queue ≠ []) :
    (pops s n st).length = n := by
  induction n generalizing st with
  | zero => rfl
  | succ n ih =>
    cases waiting : st.queue with
    | nil =>
      simp only [rounds, waiting] at h
      cases h
      exact absurd waiting waits
    | cons i rest =>
      rw [rounds_succ waiting] at h
      cases run : round s i rest st with
      | error e =>
        rw [run] at h
        cases h
      | ok st₁ =>
        rw [run] at h
        rw [pops_of_ok waiting run, List.length_cons, ih h]

theorem run_of_rounds_error {e : Error} (h : rounds s n st = .error e) : run s st = .error e := by
  induction n generalizing st with
  | zero => cases h
  | succ n ih =>
    cases waiting : st.queue with
    | nil =>
      simp only [rounds, waiting] at h
      cases h
    | cons i rest =>
      rw [rounds_succ waiting] at h
      rw [run_of_cons waiting]
      cases run : round s i rest st with
      | error e' =>
        rw [run] at h
        exact h
      | ok st₁ =>
        rw [run] at h
        exact ih h

/-- A whole search, also one that fails, is made of a bounded number of rounds. -/
theorem run_eq_rounds (hs : s.WellFormed) {st : Search K} {i : Nat} (single : st.queue = [i]) :
    run s st = rounds s (4 * s.size + 1) st := by
  cases all : rounds s (4 * s.size + 1) st with
  | error e => exact run_of_rounds_error all
  | ok st' =>
    apply run_of_rounds all
    by_contra waits
    -- Each of the rounds would have found a waypoint, and there would be one more.
    obtain ⟨queue, same, last⟩ := exists_waiting s (4 * s.size + 1) st
    have popped := length_pops all waits
    have pushed := length_pushes_le hs (4 * s.size + 1) st
    have left := List.length_pos_iff.2 (last st' all ▸ waits)
    have length := congrArg List.length same
    rw [List.length_append, List.length_append, List.length_map, single, List.length_singleton]
      at length
    omega

end Search

namespace Store

open Search

variable [Scalar K] [LawfulScalar K]

/-- A search from one of `n` waypoints is over after `4 * n + 1` rounds at most, unless it fails
earlier, whatever the coordinates are. At every moment, what has left the queue and what waits in it
are the start and then the waypoints that were pushed. No waypoint is expanded twice, no slot with a
link pushes twice, and nothing pushes the start. -/
theorem spread_bounded {s : Store K} (hs : s.Reachable) {i : Nat} (hi : i < s.size) :
    let start : Search K := .start s.size i
    s.spread (.int i) = rounds s (4 * s.size + 1) start ∧
      (∀ st, s.spread (.int i) = .ok st → st.queue = []) ∧
      ∀ n, (pops s n start).length ≤ 4 * s.size + 1 ∧
        (∀ st, rounds s n start = .ok st →
          pops s n start ++ st.queue = i :: (pushes s n start).map Lead.target) ∧
        ((expansions s n start).map Prod.fst).Nodup ∧ (pushes s n start).Nodup ∧
        ∀ l ∈ pushes s n start,
          s.link l.source l.heading = some (.leadsTo l.target) ∧ l.target ≠ i := by
  intro start
  have wellFormed := hs.wellFormed
  have single : start.queue = [i] := rfl
  refine ⟨(spread_int hi).trans (run_eq_rounds wellFormed single), ?_, fun n => ?_⟩
  · intro st spread
    rw [spread_int hi] at spread
    exact (run_induction (fun _ _ _ _ _ _ _ => trivial) trivial spread).2
  · obtain ⟨valid, nodup⟩ := pushes_once wellFormed n start
    obtain ⟨queue, all, last⟩ := exists_waiting s n start
    refine ⟨?_, ?_, (expansions_once s n start).2, nodup, fun l hl => ⟨(valid l hl).2, ?_⟩⟩
    · have length := length_pops_le wellFormed n start
      rw [single, List.length_singleton] at length
      omega
    · intro st run
      rw [last st run, all, single]
      rfl
    · exact (rooted_start hi).ne_of_mem_pushes hl

/-- Two waypoints are pushed twice, each along two links, and are passed over the second time. -/
theorem spread_bounded_shortcut :
    shortcut.Reachable ∧ 0 < shortcut.size ∧
      let start : Search Float := .start shortcut.size 0
      pops shortcut 21 start = [0, 1, 2, 4, 3, 3, 1] ∧
        shortcut.spread (.int 0) = rounds shortcut 21 start ∧
        (pushes shortcut 21 start).Nodup ∧ (∀ l ∈ pushes shortcut 21 start, l.target ≠ 0) ∧
        ((expansions shortcut 21 start).map Prod.fst).Nodup := by
  have reachable : shortcut.Reachable := ⟨_, _, rfl⟩
  have some : 0 < shortcut.size := by decide
  have popped : pops shortcut 21 (.start shortcut.size 0) = [0, 1, 2, 4, 3, 3, 1] := by
    decide +kernel
  obtain ⟨all, -, bounds⟩ := spread_bounded reachable some
  obtain ⟨-, -, expanded, pushed, valid⟩ := bounds 21
  exact ⟨reachable, some, popped, all, pushed, fun l hl => (valid l hl).2, expanded⟩

end Store

end WaypointMap
