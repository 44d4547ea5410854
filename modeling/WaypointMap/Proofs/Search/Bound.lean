import WaypointMap.Proofs.Search.Tie
import WaypointMap.Proofs.Search.Walk

/-!
# What labels are worth

A label is what some walk from the source costs. It need not be what the path read back from it
costs: a waypoint hands its label on only once, and its own label may fall afterwards. But labels
fall only, so what a waypoint offered is never less than what it would offer now. Hence the path
that is read back costs at most the label.
-/

namespace WaypointMap

open Scalar

variable {K : Type} [Scalar K] {s : Store K} {source i j : Nat} {st : Search K}

namespace Search

/-- A rooted search whose labels are costs of walks, none less than what the predecessor offers
now. -/
structure Earned (s : Store K) (source : Nat) (st : Search K) : Prop
    extends Rooted s source st where
  walked : ∀ j c, st.label j = some c → ∃ walk, s.IsWalk source j walk ∧ s.walkCost walk = c
  offer_atMost : ∀ j p c d, st.predecessor j = some p → st.label j = some c →
    st.label p = some d → AtMost (d + s.stepCost p j) c

namespace Earned

variable [LawfulDistance K]

theorem isCost_step (h : Earned s source st) {p : Nat} {c : K} (hp : st.predecessor j = some p)
    (hj : st.label j = some c) : IsCost (s.stepCost p j) := by
  obtain ⟨d, hd, -⟩ := h.label_predecessor hp hj
  exact ⟨(LawfulScalar.isNaN_of_add (h.offer_atMost j p c d hp hj hd).1).2,
    s.not_stepCost_lt_zero p j⟩

theorem improve (h : Earned s source st) (linked : s.Linked i j) (hj : j < s.size) {cost : K}
    (hi : st.label i = some cost)
    (better : improves (cost + s.stepCost i j) (st.label j) = true) :
    Earned s source (st.improve i j (cost + s.stepCost i j)) := by
  have rooted := h.toRooted.improve linked hj hi (s.not_stepCost_lt_zero i j) better
  have labels : ∀ k, (st.improve i j (cost + s.stepCost i j)).label k =
      if j = k then some (cost + s.stepCost i j) else st.label k := fun k =>
    label_improve (h.labels_size ▸ hj)
  have predecessors : ∀ k, (st.improve i j (cost + s.stepCost i j)).predecessor k =
      if j = k then some i else st.predecessor k := fun k =>
    predecessor_improve (h.predecessors_size ▸ hj)
  have new : IsCost (cost + s.stepCost i j) := by
    have label := (labels j).trans (if_pos rfl)
    exact ⟨rooted.isNaN label, rooted.nonneg j _ label⟩
  have ne : j ≠ i := ne_of_improves hi better
  refine ⟨rooted, ?_, ?_⟩
  · intro k c hk
    rw [labels] at hk
    split at hk
    next same =>
      subst same
      cases hk
      obtain ⟨walk, isWalk, rfl⟩ := h.walked i cost hi
      exact ⟨walk ++ [j], isWalk.concat linked, s.walkCost_concat isWalk j⟩
    · exact h.walked k c hk
  · intro k p c d hp hk hd
    rw [predecessors] at hp
    rw [labels] at hk hd
    split at hp
    next same =>
      cases hp
      subst same
      rw [if_pos rfl] at hk
      rw [if_neg ne, hi] at hd
      cases hk
      cases hd
      exact .refl new.1
    next other =>
      rw [if_neg other] at hk
      split at hd
      next same =>
        -- the predecessor itself is improved, so what it would offer now falls
        subst same
        cases hd
        have step := h.isCost_step hp hk
        obtain ⟨d, hd, -⟩ := h.label_predecessor hp hk
        rw [hd] at better
        have falls : AtMost (cost + s.stepCost i j) d := .of_lt (of_decide_eq_true better)
        exact (falls.add_right new step).trans (h.offer_atMost k j c d hp hk hd)
      next => exact h.offer_atMost k p c d hp hk hd

theorem start (hs : source < s.size) : Earned s source (.start s.size source) where
  toRooted := rooted_start hs
  walked := by
    intro j c hj
    obtain ⟨rfl, rfl⟩ := eq_of_label_start hj
    exact ⟨[j], .single _ j, rfl⟩
  offer_atMost := by
    intro j p c d hp
    rw [predecessor_start] at hp
    cases hp

theorem run {st' : Search K} (h : Earned s source st) (run : Search.run s st = .ok st') :
    Earned s source st' :=
  run_of_improve (fun _ _ _ h => { h with })
    (fun _ _ _ _ linked hj hi better h => h.improve linked hj hi better) h run

/-- A way along predecessors costs at most the label of its end. -/
theorem walkCost_atMost (h : Earned s source st) {path : List Nat} {c : K}
    (way : Leads st.Precedes source j path) (hj : st.label j = some c) :
    AtMost (s.walkCost path) c := by
  have bound : ∀ d, st.label j = some d →
      IsCost (s.walkCost path) ∧ AtMost (s.walkCost path) d := by
    refine way.induction
      (P := fun i path => ∀ d, st.label i = some d →
        IsCost (s.walkCost path) ∧ AtMost (s.walkCost path) d) ?_ ?_
    · intro d hd
      cases h.source_label.symm.trans hd
      exact ⟨isCost_zero, .refl isCost_zero.1⟩
    · intro p k path lead hp ih c hk
      obtain ⟨d, hd, -⟩ := h.label_predecessor hp hk
      obtain ⟨cost, le⟩ := ih d hd
      have step := h.isCost_step hp hk
      rw [s.walkCost_concat lead]
      exact ⟨cost.add step, (le.add_right cost step).trans (h.offer_atMost k p c d hp hk hd)⟩
  exact (bound c hj).2

end Earned

end Search

namespace Store

open Search

variable [LawfulDistance K]

/-- What the labels of a search from a waypoint say of real costs. The label of a waypoint is
the cost of some walk to it; the path that is read back costs at most the label; and the label of
the predecessor with the last step added is at most the label. -/
theorem spread_bounds (s : Store K) {u : Nat} {st : Search K} (h : s.spread (.int u) = .ok st)
    {v : Nat} {c : K} (hv : st.label v = some c) :
    (∃ walk, s.IsWalk u v walk ∧ s.walkCost walk = c) ∧
      (∃ path, st.wayTo? u st.labels.size v [] = some path ∧ s.IsPath u v path ∧
        AtMost (s.walkCost path) c) ∧
      (v ≠ u → ∃ p d, st.predecessor v = some p ∧ st.label p = some d ∧
        AtMost (d + s.stepCost p v) c) := by
  obtain ⟨_, ⟨⟩, hu, -⟩ := rooted_of_spread h
  have earned := (Earned.start hu).run ((spread_int hu).symm.trans h)
  refine ⟨earned.walked v c hv, ?_, ?_⟩
  · obtain ⟨path, isPath, way⟩ := earned.wayTo?_size hv
    exact ⟨path, way, isPath, earned.walkCost_atMost (isPath.leads way) hv⟩
  · intro ne
    obtain ⟨p, d, hp, hd, -⟩ := earned.preceded v c hv ne
    exact ⟨p, d, hp, hd, earned.offer_atMost v p c d hp hv hd⟩

/-- The last label was handed on along the direct link, which later proved to be the longer way:
the path that is read back costs less. -/
theorem spread_bounds_shortcut :
    ∃ st, shortcut.spread (.int 0) = .ok st ∧ st.label 4 = some 10.0 ∧
      (∃ walk, shortcut.IsWalk 0 4 walk ∧ shortcut.walkCost walk = 10.0) ∧
      st.wayTo? 0 st.labels.size 4 [] = some [0, 2, 3, 1, 4] ∧
      shortcut.walkCost [0, 2, 3, 1, 4] = 8.0 ∧ AtMost (8.0 : Float) 10.0 ∧
      ∃ p d, st.predecessor 4 = some p ∧ st.label p = some d ∧
        AtMost (d + shortcut.stepCost p 4) 10.0 := by
  have ended : ((rounds shortcut 9 (.start shortcut.size 0)).toOption.map fun st =>
      (st.queue, st.label 4, st.wayTo? 0 st.labels.size 4 [])) =
        some ([], some 10.0, some [0, 2, 3, 1, 4]) := by
    decide +kernel
  have cost : shortcut.walkCost [0, 2, 3, 1, 4] = 8.0 := by decide +kernel
  obtain ⟨st, run, same⟩ := exists_of_rounds ended
  obtain ⟨queue, label, way⟩ : st.queue = [] ∧ st.label 4 = some 10.0 ∧
      st.wayTo? 0 st.labels.size 4 [] = some [0, 2, 3, 1, 4] := by
    simpa only [Prod.mk.injEq] using same
  have spread : shortcut.spread (.int 0) = .ok st :=
    (spread_int (by decide)).trans (run_of_rounds run queue)
  obtain ⟨walked, ⟨path, way', -, least⟩, offered⟩ := spread_bounds shortcut spread label
  cases way.symm.trans way'
  exact ⟨st, spread, label, walked, way, cost, cost ▸ least, offered (by decide)⟩

end Store

end WaypointMap
