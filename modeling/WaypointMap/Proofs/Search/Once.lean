import Mathlib.Data.Finset.Card
import Mathlib.Data.Finset.Range
import WaypointMap.Proofs.Search.ClosedForm

/-!
# Searches that queue once

A search queues a waypoint again whenever its label improves, and passes over what it has
expanded. A sweep queues a waypoint only when it gets its first label, and expands whatever
leaves the queue. Both give the same labels and the same predecessors, or fail with the same
error: an improvement of a label finds its waypoint queued or expanded already.
-/

namespace WaypointMap

/-- The state of a sweep. Unlike a search, it does not keep what was expanded. -/
structure Sweep (K : Type) where
  label : Nat → Option K
  predecessor : Nat → Option Nat
  queue : List Nat

variable {K : Type}

namespace Sweep

/-- Sets the label of `j` from its predecessor `i`, and queues `j` if it had no label. -/
def improve (w : Sweep K) (i j : Nat) (cost : K) : Sweep K :=
  { label := Function.update w.label j (some cost)
    predecessor := Function.update w.predecessor j (some i)
    queue := if w.label j = none then w.queue ++ [j] else w.queue }

/-- How much is left to do among the first `n` waypoints: those without a label may still be
queued. -/
def work (n : Nat) (w : Sweep K) : Nat :=
  ((Finset.range n).filter fun j => w.label j = none).card + w.queue.length

theorem work_improve_le (w : Sweep K) {i j n : Nat} (hj : j < n) (cost : K) :
    (w.improve i j cost).work n ≤ w.work n := by
  have fewer : ((Finset.range n).filter fun k => (w.improve i j cost).label k = none) =
      ((Finset.range n).filter fun k => w.label k = none).erase j := by
    ext k
    rw [Finset.mem_filter, Finset.mem_erase, Finset.mem_filter]
    by_cases same : k = j <;> simp [improve, same]
  unfold work
  rw [fewer]
  by_cases first : w.label j = none
  · have unlabelled : j ∈ (Finset.range n).filter fun k => w.label k = none := by
      simp [hj, first]
    have less := Finset.card_erase_add_one unlabelled
    rw [improve, if_pos first, List.length_append, List.length_singleton]
    omega
  · rw [improve, if_neg first]
    exact Nat.add_le_add_right Finset.card_erase_le _

end Sweep

variable [Scalar K]

/-- The squared distance from one position to another, unless it leaves the finite range. -/
def Store.checkedStep (s : Store K) (i j : Nat) : Checked K := do
  let w ← s.fetch i
  let v ← s.fetch j
  w.squaredStep v

theorem Store.lt_size_of_checkedStep {s : Store K} {i j : Nat} {step : K}
    (h : s.checkedStep i j = .ok step) : j < s.size := by
  by_contra large
  have missing : s.fetch j = .error (.ofIndex .noSuchIndex j) := by
    rw [fetch, Array.getElem?_eq_none (Nat.le_of_not_lt large)]
  cases hw : s.fetch i <;> simp [checkedStep, hw, missing, bind, Except.bind] at h

theorem Search.offer_eq_map (s : Store K) (i : Nat) (st : Search K) (j : Nat) :
    offer s i st j = (s.checkedStep i j).map (st.offered i j) := by
  cases hw : s.fetch i with
  | error e => simp [offer, Store.checkedStep, hw, bind, Except.bind, Except.map]
  | ok w =>
    cases hv : s.fetch j with
    | error e => simp [offer, Store.checkedStep, hw, hv, bind, Except.bind, Except.map]
    | ok v =>
      cases hstep : w.squaredStep v with
      | error e => simp [offer, Store.checkedStep, hw, hv, hstep, bind, Except.bind, Except.map]
      | ok step =>
        simp only [offer, Store.checkedStep, hw, hv, hstep, bind, Except.bind, Except.map, offered]
        cases st.label i with
        | none => rfl
        | some cost => dsimp only; split <;> rfl

/-! ## Sweeps -/

namespace Sweep

/-- Before the first round: the start has cost zero and waits. -/
def start (i : Nat) : Sweep K :=
  { label := Function.update (fun _ => none) i (some 0.0)
    predecessor := fun _ => none
    queue := [i] }

/-- The sweep after `i` has offered its label to `j` over a step of some cost. -/
def offered (w : Sweep K) (i j : Nat) (step : K) : Sweep K :=
  match w.label i with
  | none => w
  | some cost =>
    if Search.improves (cost + step) (w.label j) then w.improve i j (cost + step) else w

/-- Offers the label of `i` to some neighbors, one after the other. -/
def offerAll (s : Store K) (i : Nat) (w : Sweep K) : List Nat → Checked (Sweep K)
  | [] => .ok w
  | j :: rest =>
    match s.checkedStep i j with
    | .error e => .error e
    | .ok step => offerAll s i (w.offered i j step) rest

/-- One round: the head of the queue leaves, and is expanded. -/
def round (s : Store K) (i : Nat) (rest : List Nat) (w : Sweep K) : Checked (Sweep K) :=
  offerAll s i { w with queue := rest } (Search.neighborsAt s i)

theorem work_offerAll_le {s : Store K} {i : Nat} {js : List Nat} {w w' : Sweep K}
    (h : offerAll s i w js = .ok w') : w'.work s.size ≤ w.work s.size := by
  induction js generalizing w with
  | nil =>
    cases h
    exact Nat.le_refl _
  | cons j js ih =>
    rw [offerAll] at h
    split at h
    · cases h
    next step hstep =>
    refine (ih h).trans ?_
    unfold offered
    split
    · exact Nat.le_refl _
    split
    · exact w.work_improve_le (Store.lt_size_of_checkedStep hstep) _
    · exact Nat.le_refl _

theorem work_round_lt {s : Store K} {i : Nat} {rest : List Nat} {w w' : Sweep K}
    (waiting : w.queue = i :: rest) (h : round s i rest w = .ok w') :
    w'.work s.size < w.work s.size := by
  refine (work_offerAll_le h).trans_lt ?_
  simp [work, waiting]

/-- Rounds until the queue is empty. -/
def run (s : Store K) (w : Sweep K) : Checked (Sweep K) :=
  match waiting : w.queue with
  | [] => .ok w
  | i :: rest =>
    match h : round s i rest w with
    | .error e => .error e
    | .ok w' =>
      have := work_round_lt waiting h
      run s w'
termination_by w.work s.size

theorem run_of_nil {s : Store K} {w : Sweep K} (waiting : w.queue = []) : run s w = .ok w := by
  unfold run
  split
  · rfl
  next i rest waiting' => cases waiting.symm.trans waiting'

theorem run_of_cons {s : Store K} {w : Sweep K} {i : Nat} {rest : List Nat}
    (waiting : w.queue = i :: rest) : run s w = (round s i rest w).bind (run s) := by
  conv_lhs => unfold run
  split
  next waiting' => cases waiting.symm.trans waiting'
  next i' rest' waiting' =>
    cases waiting.symm.trans waiting'
    split
    next e h => simp only [h, Except.bind]
    next w' h => simp only [h, Except.bind]

end Sweep

/-- The labels and predecessors of a sweep from a waypoint. -/
def Store.sweep (s : Store K) (source : Json) : Checked (Sweep K) := do
  let i ← s.resolve source
  Sweep.run s (.start i)

/-! ## A search as a sweep -/

namespace Search

variable {s : Store K} {st st' : Search K} {i j : Nat} {rest : List Nat}

/-- A search without what it only keeps to pass over: of the queue, the first place of each
waypoint that is not expanded. -/
def swept (st : Search K) : Sweep K where
  label := st.label
  predecessor := st.predecessor
  queue := (st.queue.filter st.isFresh).eraseDups

/-- A search in which the waypoints without a label are those that were never queued. -/
structure Tracked (s : Store K) (st : Search K) : Prop where
  labels_size : st.labels.size = s.size
  predecessors_size : st.predecessors.size = s.size
  unlabelled_iff : ∀ j < s.size, st.label j = none ↔ st.isFresh j = true ∧ j ∉ st.queue

theorem tracked_start (s : Store K) (i : Nat) : Tracked s (.start s.size i) where
  labels_size := by simp [start]
  predecessors_size := by simp [start]
  unlabelled_iff := by
    intro j hj
    rw [label_start]
    by_cases same : i = j
    · simp [start, same, hj]
    · simp [start, isFresh, hj, same, Ne.symm same]

theorem swept_start {i : Nat} (hi : i < s.size) :
    (Search.start s.size i : Search K).swept = .start i := by
  unfold swept Sweep.start
  congr
  · funext j
    rw [label_start]
    by_cases same : i = j
    · subst same
      simp [hi]
    · simp [same, Function.update_of_ne (Ne.symm same)]
  · funext j
    exact predecessor_start s.size i j
  · have fresh : (Search.start s.size i : Search K).isFresh i = true := by
      simp [isFresh, start, hi]
    have queue : (Search.start s.size i : Search K).queue = [i] := rfl
    rw [queue, List.filter_cons_of_pos fresh]
    simp [List.eraseDups_cons]

omit [Scalar K] in
/-- An improvement puts a waypoint in the queue of the sweep only if it had no label. -/
theorem Tracked.swept_improve (h : Tracked s st) (hj : j < s.size) (cost : K) :
    (st.improve i j cost).swept = st.swept.improve i j cost := by
  have queue : (st.improve i j cost).queue.filter (st.improve i j cost).isFresh =
      st.queue.filter st.isFresh ++ [j].filter st.isFresh :=
    List.filter_append ..
  unfold swept Sweep.improve
  congr
  · funext k
    rw [label_improve (h.labels_size ▸ hj), Function.update_apply]
    simp only [eq_comm]
  · funext k
    rw [predecessor_improve (h.predecessors_size ▸ hj), Function.update_apply]
    simp only [eq_comm]
  · rw [queue]
    dsimp only
    by_cases fresh : st.isFresh j = true
    · rw [List.filter_cons_of_pos fresh, List.filter_nil]
      by_cases queued : j ∈ st.queue
      · rw [if_neg fun none => ((h.unlabelled_iff j hj).1 none).2 queued]
        exact eraseDups_concat_of_mem (List.mem_filter.2 ⟨queued, fresh⟩)
      · rw [if_pos ((h.unlabelled_iff j hj).2 ⟨fresh, queued⟩)]
        exact eraseDups_concat_of_not_mem fun again => queued (List.mem_filter.1 again).1
    · rw [List.filter_cons_of_neg fresh, List.filter_nil, List.append_nil,
        if_neg fun none => fresh ((h.unlabelled_iff j hj).1 none).1]

omit [Scalar K] in
theorem Tracked.improve (h : Tracked s st) (hj : j < s.size) (cost : K) :
    Tracked s (st.improve i j cost) where
  labels_size := by rw [Search.improve, Array.size_setIfInBounds, h.labels_size]
  predecessors_size := by rw [Search.improve, Array.size_setIfInBounds, h.predecessors_size]
  unlabelled_iff := by
    intro k hk
    have fresh : (st.improve i j cost).isFresh k = st.isFresh k := rfl
    have queue : (st.improve i j cost).queue = st.queue ++ [j] := rfl
    rw [label_improve (h.labels_size ▸ hj), fresh, queue, List.mem_append, List.mem_singleton]
    by_cases same : j = k
    · simp [same]
    · rw [if_neg same, h.unlabelled_iff k hk]
      simp [Ne.symm same]

theorem Tracked.offered (h : Tracked s st) (hj : j < s.size) (step : K) :
    Tracked s (st.offered i j step) ∧ (st.offered i j step).swept = st.swept.offered i j step := by
  have label : st.swept.label = st.label := rfl
  unfold Search.offered Sweep.offered
  rw [label]
  cases st.label i with
  | none => exact ⟨h, rfl⟩
  | some cost =>
    dsimp only
    split
    · exact ⟨h.improve hj _, h.swept_improve hj _⟩
    · exact ⟨h, rfl⟩

/-- The offers of a waypoint do the same in the search and in the sweep. -/
theorem Tracked.offerAll (h : Tracked s st) (js : List Nat) :
    (∀ st', offerAll s i st js = .ok st' → Tracked s st') ∧
      Sweep.offerAll s i st.swept js = (offerAll s i st js).map swept := by
  induction js generalizing st with
  | nil =>
    refine ⟨?_, rfl⟩
    rintro st' ⟨⟩
    exact h
  | cons j js ih =>
    rw [Search.offerAll, Sweep.offerAll, offer_eq_map]
    cases hstep : s.checkedStep i j with
    | error e =>
      refine ⟨?_, rfl⟩
      intro st' ok
      cases ok
    | ok step =>
      obtain ⟨tracked, same⟩ := h.offered (i := i) (Store.lt_size_of_checkedStep hstep) step
      simp only [Except.map, ← same]
      exact ih tracked

/-! ## Rounds -/

omit [Scalar K] in
theorem Tracked.skip (h : Tracked s st) (waiting : st.queue = i :: rest)
    (stale : ¬ st.isFresh i = true) : Tracked s { st with queue := rest } where
  labels_size := h.labels_size
  predecessors_size := h.predecessors_size
  unlabelled_iff := by
    intro j hj
    have fresh : ({ st with queue := rest } : Search K).isFresh j = st.isFresh j := rfl
    have label : ({ st with queue := rest } : Search K).label j = st.label j := rfl
    rw [fresh, label, h.unlabelled_iff j hj, waiting, List.mem_cons, not_or]
    constructor
    · rintro ⟨fresh, -, queued⟩
      exact ⟨fresh, queued⟩
    · rintro ⟨fresh, queued⟩
      refine ⟨fresh, ?_, queued⟩
      rintro rfl
      exact stale fresh

omit [Scalar K] in
theorem swept_skip (waiting : st.queue = i :: rest) (stale : ¬ st.isFresh i = true) :
    ({ st with queue := rest } : Search K).swept = st.swept := by
  unfold swept
  rw [waiting, List.filter_cons_of_neg stale]
  rfl

omit [Scalar K] in
theorem Tracked.opened (h : Tracked s st) (waiting : st.queue = i :: rest) :
    Tracked s { st with queue := rest, expanded := st.expanded.setIfInBounds i true } where
  labels_size := h.labels_size
  predecessors_size := h.predecessors_size
  unlabelled_iff := by
    intro j hj
    have label : ({ st with queue := rest, expanded := st.expanded.setIfInBounds i true } :
        Search K).label j = st.label j := rfl
    rw [isFresh_setExpanded, label, h.unlabelled_iff j hj, waiting]
    simp [not_or, and_assoc, and_left_comm]

omit [Scalar K] in
theorem queue_swept (waiting : st.queue = i :: rest) (fresh : st.isFresh i = true) :
    st.swept.queue = i :: ({ st with
      queue := rest, expanded := st.expanded.setIfInBounds i true } : Search K).swept.queue := by
  unfold swept
  rw [waiting, List.filter_cons_of_pos fresh, List.eraseDups_cons, List.filter_filter,
    ← funext (isFresh_setExpanded st rest i)]

/-- The search and the sweep expand the same waypoint next. -/
theorem Tracked.round (h : Tracked s st) (waiting : st.queue = i :: rest)
    (fresh : st.isFresh i = true) :
    (∀ st', round s i rest st = .ok st' → Tracked s st') ∧
      ∃ rest', st.swept.queue = i :: rest' ∧
        Sweep.round s i rest' st.swept = (round s i rest st).map swept := by
  obtain ⟨tracked, same⟩ := (h.opened waiting).offerAll (i := i) (neighborsAt s i)
  rw [round_of_fresh fresh]
  exact ⟨tracked, _, queue_swept waiting fresh, same⟩

/-- A search gives what the sweep gives, rounds that only pass over a waypoint apart. -/
theorem Tracked.run (h : Tracked s st) : Sweep.run s st.swept = (run s st).map swept := by
  induction st using run.induct s with
  | case1 st waiting =>
    have done : st.swept.queue = [] := by
      unfold swept
      rw [waiting]
      rfl
    rw [run_of_nil waiting, Sweep.run_of_nil done]
    rfl
  | case2 st i rest waiting e failed =>
    by_cases fresh : st.isFresh i = true
    · obtain ⟨-, rest', waiting', same⟩ := h.round waiting fresh
      rw [run_of_cons waiting, Sweep.run_of_cons waiting', same, failed]
      rfl
    · cases (round_of_stale fresh rest).symm.trans failed
  | case3 st i rest waiting st₁ run₁ smaller ih =>
    by_cases fresh : st.isFresh i = true
    · obtain ⟨tracked, rest', waiting', same⟩ := h.round waiting fresh
      rw [run_of_cons waiting, Sweep.run_of_cons waiting', same, run₁]
      exact ih (tracked st₁ run₁)
    · cases (round_of_stale fresh rest).symm.trans run₁
      rw [run_of_cons waiting, run₁, ← swept_skip waiting fresh]
      exact ih (h.skip waiting fresh)

end Search

namespace Store

open Search

/-- To queue a waypoint once, when it gets its first label, is enough: whatever the coordinates
are, the sweep ends with the labels and the predecessors of the search, or with its error. -/
theorem sweep_eq_spread (s : Store K) (id : Json) :
    s.sweep id = (s.spread id).map fun st => ⟨st.label, st.predecessor, []⟩ := by
  unfold sweep spread
  cases hi : s.resolve id with
  | error e => rfl
  | ok i =>
    obtain ⟨-, hi⟩ := resolve_eq_ok_iff.1 hi
    change Sweep.run s (.start i) = (Search.run s (.start s.size i)).map _
    rw [← swept_start hi, (tracked_start s i).run]
    cases run : Search.run s (.start s.size i) with
    | error e => rfl
    | ok st =>
      have done : st.queue = [] := (run_induction (fun _ _ _ _ _ _ _ => trivial) trivial run).2
      simp [Except.map, swept, done]

end Store

end WaypointMap
