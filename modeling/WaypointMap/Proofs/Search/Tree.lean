import WaypointMap.Proofs.Search.Step
import Mathlib.Logic.Relation
import Mathlib.Order.RelClasses

/-!
# The tree of predecessors

Labels and predecessors keep changing while a search goes on, also those of waypoints that
were expanded long ago. One thing never fails: the label of a waypoint is not below that of
its predecessor. So an offer improves no waypoint that comes before the one that makes it, and
the predecessors never form a cycle.
-/

namespace WaypointMap

namespace Search

open Relation

/-! ## Predecessors without cycles -/

def Precedes {K : Type} (st : Search K) (p j : Nat) : Prop := st.predecessor j = some p

/-- A node that does not come before its new predecessor closes no cycle. -/
theorem wellFounded_update {f g : Nat → Option Nat} {i j : Nat}
    (hf : WellFounded fun p k => f k = some p)
    (hg : ∀ k, g k = if j = k then some i else f k)
    (apart : ¬ ReflTransGen (fun p k => f k = some p) j i) :
    WellFounded fun p k => g k = some p := by
  -- Above a node that does not come after `j`, nothing has changed.
  have before : ∀ k, ¬ ReflTransGen (fun p k => f k = some p) j k →
      Acc (fun p k => g k = some p) k := by
    intro k
    induction k using hf.induction with
    | h k ih =>
      intro apart
      refine Acc.intro k fun p hp => ?_
      have ne : j ≠ k := by
        rintro rfl
        exact apart .refl
      rw [hg, if_neg ne] at hp
      exact ih p hp fun chain => apart (chain.tail hp)
  refine ⟨fun k => ?_⟩
  induction k using hf.induction with
  | h k ih =>
    refine Acc.intro k fun p hp => ?_
    rw [hg] at hp
    split at hp
    · cases hp
      exact before i apart
    · exact ih p hp

/-! ## The invariant -/

variable {K : Type} [Scalar K] {s : Store K} {source : Nat} {st : Search K}

/-- Labels that were handed on along links from the source. -/
structure Rooted (s : Store K) (source : Nat) (st : Search K) : Prop where
  labels_size : st.labels.size = s.size
  predecessors_size : st.predecessors.size = s.size
  source_label : st.label source = some 0.0
  source_predecessor : st.predecessor source = none
  isFinite : ∀ j c, st.label j = some c → Scalar.isFinite c = true
  nonneg : ∀ j c, st.label j = some c → ¬ c < 0.0
  preceded : ∀ j c, st.label j = some c → j ≠ source →
    ∃ p d, st.predecessor j = some p ∧ st.label p = some d ∧ ¬ c < d ∧ s.Linked p j
  acyclic : WellFounded st.Precedes

theorem label_start (count i j : Nat) :
    (start count i : Search K).label j = if i = j ∧ j < count then some 0.0 else none := by
  simp only [start, label, Array.getD_eq_getD_getElem?, Array.getElem?_setIfInBounds,
    Array.getElem?_replicate, Array.size_replicate]
  by_cases hij : i = j <;> by_cases hj : j < count <;> simp [hij, hj]

theorem eq_of_label_start {count i j : Nat} {c : K}
    (h : (start count i : Search K).label j = some c) : j = i ∧ c = 0.0 := by
  rw [label_start] at h
  split at h
  next here =>
    cases h
    exact ⟨here.1.symm, rfl⟩
  next => cases h

theorem predecessor_start (count i j : Nat) :
    (start count i : Search K).predecessor j = none := by
  simp only [start, predecessor, Array.getD_eq_getD_getElem?, Array.getElem?_replicate]
  split <;> rfl

variable [LawfulScalar K]

theorem rooted_start (hs : source < s.size) : Rooted s source (.start s.size source) where
  labels_size := by simp [start]
  predecessors_size := by simp [start]
  source_label := by rw [label_start, if_pos ⟨rfl, hs⟩]
  source_predecessor := predecessor_start s.size source source
  isFinite := by
    intro j c hj
    obtain ⟨-, rfl⟩ := eq_of_label_start hj
    exact LawfulScalar.isFinite_zero
  nonneg := by
    intro j c hj
    obtain ⟨-, rfl⟩ := eq_of_label_start hj
    exact fun lt => LawfulScalar.lt_asymm lt lt
  preceded := by
    intro j c hj ne
    exact absurd (eq_of_label_start hj).1 ne
  acyclic := by
    refine ⟨fun j => Acc.intro j fun p hp => ?_⟩
    rw [Precedes, predecessor_start] at hp
    cases hp

namespace Rooted

theorem isNaN (h : Rooted s source st) {j : Nat} {c : K} (hj : st.label j = some c) :
    Scalar.isNaN c = false :=
  LawfulScalar.isNaN_of_isFinite (h.isFinite j c hj)

omit [LawfulScalar K] in
theorem label_predecessor (h : Rooted s source st) {p j : Nat} (hp : st.predecessor j = some p)
    {c : K} (hj : st.label j = some c) :
    ∃ d, st.label p = some d ∧ ¬ c < d ∧ s.Linked p j := by
  have ne : j ≠ source := by
    rintro rfl
    cases h.source_predecessor.symm.trans hp
  obtain ⟨p', d, hp', hd, le, linked⟩ := h.preceded j c hj ne
  cases hp.symm.trans hp'
  exact ⟨d, hd, le, linked⟩

/-- Whatever comes before a labelled waypoint has a label that is not above its own. -/
theorem label_of_precedes (h : Rooted s source st) {i j : Nat}
    (chain : ReflTransGen st.Precedes j i) {c : K} (hi : st.label i = some c) :
    ∃ d, st.label j = some d ∧ ¬ c < d := by
  induction chain generalizing c with
  | refl => exact ⟨c, hi, fun lt => LawfulScalar.lt_asymm lt lt⟩
  | @tail b i chain hb ih =>
    obtain ⟨d, hd, le, -⟩ := h.label_predecessor hb hi
    obtain ⟨e, he, le'⟩ := ih hd
    exact ⟨e, he, LawfulScalar.not_lt_trans (h.isNaN hd) le' le⟩

/-- Nothing improves the label of the source. -/
theorem ne_source_of_improves (h : Rooted s source st) {i j : Nat} {cost step : K}
    (hi : st.label i = some cost) (hstep : ¬ step < 0.0)
    (better : improves (cost + step) (st.label j) = true) : j ≠ source := by
  rintro rfl
  rw [h.source_label] at better
  exact LawfulScalar.not_lt_trans (h.isNaN hi) (h.nonneg i cost hi) (LawfulScalar.not_add_lt hstep)
    (of_decide_eq_true better)

theorem improve (h : Rooted s source st) {i j : Nat} (linked : s.Linked i j) (hj : j < s.size)
    {cost step : K} (hi : st.label i = some cost) (hstep : ¬ step < 0.0)
    (better : improves (cost + step) (st.label j) = true) :
    Rooted s source (st.improve i j (cost + step)) := by
  have labels : ∀ k, (st.improve i j (cost + step)).label k =
      if j = k then some (cost + step) else st.label k := fun k =>
    label_improve (h.labels_size ▸ hj)
  have predecessors : ∀ k, (st.improve i j (cost + step)).predecessor k =
      if j = k then some i else st.predecessor k := fun k =>
    predecessor_improve (h.predecessors_size ▸ hj)
  have above : ¬ cost + step < cost := LawfulScalar.not_add_lt hstep
  have nonneg : ¬ cost + step < 0.0 :=
    LawfulScalar.not_lt_trans (h.isNaN hi) (h.nonneg i cost hi) above
  -- What the offer improves does not come before the waypoint that makes it.
  have apart : ¬ ReflTransGen st.Precedes j i := by
    intro chain
    obtain ⟨d, hd, le⟩ := h.label_of_precedes chain hi
    rw [hd] at better
    exact LawfulScalar.not_lt_trans (h.isNaN hi) le above (of_decide_eq_true better)
  have ne : j ≠ i := by
    rintro rfl
    exact apart .refl
  have ne_source : j ≠ source := h.ne_source_of_improves hi hstep better
  exact {
    labels_size := by rw [Search.improve, Array.size_setIfInBounds, h.labels_size]
    predecessors_size := by rw [Search.improve, Array.size_setIfInBounds, h.predecessors_size]
    source_label := by rw [labels, if_neg ne_source, h.source_label]
    source_predecessor := by rw [predecessors, if_neg ne_source, h.source_predecessor]
    isFinite := by
      intro k c hk
      rw [labels] at hk
      split at hk
      · cases hk
        cases hold : st.label j with
        | none =>
          rw [hold] at better
          exact better
        | some old =>
          rw [hold] at better
          exact LawfulScalar.isFinite_of_lt (of_decide_eq_true better) nonneg
            (h.isFinite j old hold)
      · exact h.isFinite k c hk
    nonneg := by
      intro k c hk
      rw [labels] at hk
      split at hk
      · cases hk
        exact nonneg
      · exact h.nonneg k c hk
    preceded := by
      intro k c hk hks
      rw [labels] at hk
      rw [predecessors]
      split at hk
      next same =>
        cases hk
        rw [if_pos same]
        refine ⟨i, cost, rfl, ?_, above, same ▸ linked⟩
        rw [labels, if_neg ne, hi]
      next other =>
        rw [if_neg other]
        obtain ⟨p, d, hp, hd, le, hlinked⟩ := h.preceded k c hk hks
        by_cases hpj : j = p
        · -- The predecessor itself is improved: its label only falls.
          subst hpj
          rw [hd] at better
          refine ⟨j, cost + step, hp, ?_, fun lt => le (LawfulScalar.lt_trans lt
            (of_decide_eq_true better)), hlinked⟩
          rw [labels, if_pos rfl]
        · refine ⟨p, d, hp, ?_, le, hlinked⟩
          rw [labels, if_neg hpj, hd]
    acyclic := wellFounded_update h.acyclic predecessors apart }

theorem round {st' : Search K} (h : Rooted s source st) {i : Nat} {rest : List Nat}
    (run : Search.round s i rest st = .ok st') : Rooted s source st' :=
  round_of_improve (fun _ _ _ h => { h with })
    (fun _ i j _ linked hj hi better h =>
      h.improve linked hj hi (s.not_stepCost_lt_zero i j) better) h run

/-- Whatever a search gives is rooted in its source. -/
theorem run {st' : Search K} (h : Rooted s source st) (run : Search.run s st = .ok st') :
    Rooted s source st' :=
  (run_induction (fun _ _ _ _ _ h run => h.round run) h run).1

end Rooted

theorem rooted_of_spread {id : Json} (h : s.spread id = .ok st) :
    ∃ i : Nat, id = .int i ∧ i < s.size ∧ Rooted s i st := by
  simp only [Store.spread, bind, Except.bind] at h
  split at h
  · cases h
  next i hi =>
  obtain ⟨rfl, hs⟩ := Store.resolve_eq_ok_iff.1 hi
  exact ⟨i, rfl, hs, (rooted_start hs).run h⟩

end Search

end WaypointMap
