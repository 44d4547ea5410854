import Mathlib.Combinatorics.SimpleGraph.Acyclic
import WaypointMap.Proofs.Search.Tie
import WaypointMap.Proofs.Search.Walk

/-!
# Searches without cycles

Where the links around a start form no cycle, one path leads to each waypoint. Whatever a search
reads back is this path, and the label is what the path costs. No walk costs less: a step either
prolongs the path or goes back on it. So the answer is a match that no walk reaches for less.
-/

namespace WaypointMap

open Relation (ReflTransGen)
open Scalar

variable {K : Type}

namespace Store

variable {s : Store K} {u v i j : Nat} {path path' : List Nat}

/-- The waypoints that can be reached from a start, joined by their links. A link of a waypoint to
itself does not count, and several links between two count once. -/
def surroundings (s : Store K) (u : Nat) : SimpleGraph Nat :=
  .fromRel fun i j => s.Reaches u i ∧ s.Linked i j

theorem exists_walk_of_isWalk (isWalk : s.IsWalk u v path) (nodup : path.Nodup) :
    ∃ w : (s.surroundings u).Walk u v, w.support = path := by
  refine isWalk.induction
    (P := fun i path => path.Nodup → ∃ w : (s.surroundings u).Walk u i, w.support = path)
    ?_ ?_ nodup
  · intro _
    exact ⟨.nil, rfl⟩
  · intro i j way lead linked ih nodup
    obtain ⟨before, -, apart⟩ := List.nodup_append.1 nodup
    obtain ⟨w, rfl⟩ := ih before
    have ne : i ≠ j := by
      rintro rfl
      exact apart i (List.mem_of_getLast? lead.last) i (List.mem_singleton_self i) rfl
    have adj : (s.surroundings u).Adj i j :=
      ⟨ne, .inl ⟨IsWalk.reaches lead, linked⟩⟩
    exact ⟨w.concat adj, w.support_concat adj⟩

/-- Without cycles, there is one path to a waypoint. -/
theorem IsPath.unique (acyclic : (s.surroundings u).IsAcyclic) (h : s.IsPath u v path)
    (h' : s.IsPath u v path') : path = path' := by
  obtain ⟨w, rfl⟩ := exists_walk_of_isWalk h.isWalk h.nodup
  obtain ⟨w', rfl⟩ := exists_walk_of_isWalk h'.isWalk h'.nodup
  have same : (⟨w, w.isPath_def.2 h.nodup⟩ : (s.surroundings u).Path u v) =
      ⟨w', w'.isPath_def.2 h'.nodup⟩ :=
    (acyclic.subsingleton_path u v).elim _ _
  rw [Subtype.mk.inj same]

theorem IsPath.of_concat {r : Nat → Nat → Prop} (h : s.IsPath u v (path ++ [j]))
    (lead : Leads r u i path) : s.IsPath u i path where
  head := lead.head
  last := lead.last
  nodup := h.nodup.sublist (List.sublist_append_left ..)
  linked := (List.isChain_append.1 h.linked).1

theorem IsPath.concat (h : s.IsPath u i path) (linked : s.Linked i j) (new : j ∉ path) :
    s.IsPath u j (path ++ [j]) := by
  have lead := h.isWalk.concat linked
  refine ⟨lead.head, lead.last, ?_, lead.chain⟩
  rw [← List.concat_eq_append]
  exact h.nodup.concat new

/-- If no waypoint is linked with two lower ones, the links form no cycle. -/
theorem isAcyclic_of_lower (hs : s.WellFormed) (u : Nat)
    (lower : ∀ i j k, s.Linked i j → s.Linked i k → j < i → k < i → j = k) :
    (s.surroundings u).IsAcyclic := by
  have linked_of_adj : ∀ {i j}, (s.surroundings u).Adj i j → s.Linked i j := by
    rintro i j ⟨-, ⟨-, linked⟩ | ⟨-, linked⟩⟩
    · exact linked
    · exact hs.linked_symm linked
  intro v cycle isCycle
  -- the highest waypoint of a cycle has two neighbors on it, both of them lower
  obtain ⟨top, mem, highest⟩ := cycle.support.toFinset.exists_max_image id
    ⟨v, List.mem_toFinset.2 cycle.start_mem_support⟩
  rw [List.mem_toFinset] at mem
  have around := isCycle.rotate mem
  have next := (cycle.rotate top mem).adj_snd around.not_nil
  have previous := (cycle.rotate top mem).adj_penultimate around.not_nil
  have below : ∀ i ∈ (cycle.rotate top mem).support, (s.surroundings u).Adj top i → i < top := by
    intro i hi adj
    rw [SimpleGraph.Walk.mem_support_rotate_iff] at hi
    exact Nat.lt_of_le_of_ne (highest i (List.mem_toFinset.2 hi)) adj.ne'
  exact around.snd_ne_penultimate (lower top _ _ (linked_of_adj next) (linked_of_adj previous.symm)
    (below _ (SimpleGraph.Walk.getVert_mem_support ..) next)
    (below _ (SimpleGraph.Walk.getVert_mem_support ..) previous.symm))

end Store

namespace Search

variable [Scalar K] {s : Store K} {source i j : Nat} {st : Search K}

/-- A rooted search in which the label of a waypoint is what any path to it costs. -/
structure Exact (s : Store K) (source : Nat) (st : Search K) : Prop
    extends Rooted s source st where
  cost : ∀ j c, st.label j = some c → ∀ path, s.IsPath source j path → s.walkCost path = c

namespace Exact

variable [LawfulScalar K]

theorem start (hs : source < s.size) : Exact s source (.start s.size source) where
  toRooted := rooted_start hs
  cost := by
    intro j c hj path isPath
    obtain ⟨rfl, rfl⟩ := eq_of_label_start hj
    rw [isPath.eq_singleton]
    rfl

/-- The only path to a waypoint that is improved goes through its new predecessor. -/
theorem improve (acyclic : (s.surroundings source).IsAcyclic) (h : Exact s source st)
    (linked : s.Linked i j) (hj : j < s.size) {cost : K} (hi : st.label i = some cost)
    (better : improves (cost + s.stepCost i j) (st.label j) = true) :
    Exact s source (st.improve i j (cost + s.stepCost i j)) := by
  have rooted := h.toRooted.improve linked hj hi (s.not_stepCost_lt_zero i j) better
  have labels : ∀ k, (st.improve i j (cost + s.stepCost i j)).label k =
      if j = k then some (cost + s.stepCost i j) else st.label k := fun k =>
    label_improve (h.labels_size ▸ hj)
  have predecessor : (st.improve i j (cost + s.stepCost i j)).predecessor j = some i := by
    rw [predecessor_improve (h.predecessors_size ▸ hj), if_pos rfl]
  refine ⟨rooted, ?_⟩
  intro k c hk path isPath
  have hk' := hk
  rw [labels] at hk
  split at hk
  next same =>
    subst same
    cases hk
    obtain ⟨back, isPath', way⟩ := rooted.wayTo?_size hk'
    obtain ⟨rfl, -⟩ | ⟨p, before, lead, hp, rfl⟩ := (isPath'.leads way).cases_last
    · cases rooted.source_predecessor.symm.trans predecessor
    · cases predecessor.symm.trans hp
      rw [isPath.unique acyclic isPath', s.walkCost_concat lead,
        h.cost i cost hi before (isPath'.of_concat lead)]
  next => exact h.cost k c hk path isPath

theorem run (acyclic : (s.surroundings source).IsAcyclic) (h : Exact s source st)
    {st' : Search K} (run : Search.run s st = .ok st') : Exact s source st' :=
  run_of_improve (fun _ _ _ h => { h with })
    (fun _ _ _ _ linked hj hi better h => h.improve acyclic linked hj hi better) h run

end Exact

/-- Where labels are what paths cost, and reach everywhere, no walk costs less. -/
theorem Exact.atMost_walkCost [LawfulDistance K] (h : Exact s source st)
    (labelled : ∀ i, s.Reaches source i → st.label i ≠ none)
    (steps : ∀ i j, s.Reaches source i → s.Linked i j → IsCost (s.stepCost i j))
    {v : Nat} {walk : List Nat} (isWalk : s.IsWalk source v walk) {c : K}
    (hv : st.label v = some c) : AtMost c (s.walkCost walk) := by
  refine isWalk.induction
    (P := fun i walk => ∀ c, st.label i = some c → AtMost c (s.walkCost walk)) ?_ ?_ c hv
  · intro c hc
    cases h.source_label.symm.trans hc
    exact .refl isCost_zero.1
  · intro i j way lead linked ih d hd
    have reached := Store.IsWalk.reaches lead
    obtain ⟨c, hc⟩ := Option.ne_none_iff_exists'.1 (labelled i reached)
    have step := steps i j reached linked
    have cost : IsCost c := ⟨h.isNaN hc, h.nonneg i c hc⟩
    have least := ih c hc
    rw [s.walkCost_concat lead]
    obtain ⟨path, isPath, ancestors, -⟩ := h.exists_wayTo? hc
    by_cases back : j ∈ path
    · obtain ⟨d', hd', le⟩ := h.label_of_precedes (ancestors j back) hc
      cases hd.symm.trans hd'
      have below : AtMost d c := ⟨h.isNaN hd, cost.1, le⟩
      exact (below.trans least).trans ((cost.of_atMost least).atMost_add step)
    · have prolonged := isPath.concat linked back
      rw [← h.cost j d hd _ prolonged, s.walkCost_concat isPath.isWalk, h.cost i c hc path isPath]
      exact least.add_right cost step

end Search

namespace Store

open Search

variable [Scalar K] [LawfulDistance K] {s : Store K} {u : Nat}

/-- Where links form no cycle and sums are finite, a search is exact. One path leads to each
waypoint that can be reached; it is the one that is read back, the label is its cost, and no walk
costs less. The answer ends at a match that no walk to a match undercuts, if a match can be
reached. -/
theorem spread_exact_of_acyclic (hs : s.Reachable) (hu : u < s.size)
    (acyclic : (s.surroundings u).IsAcyclic) (finite : s.SumsFinite u) :
    ∃ st, s.spread (.int u) = .ok st ∧
      (∀ v, s.Reaches u v → ∃ path c, s.IsPath u v path ∧
        (∀ other, s.IsPath u v other → other = path) ∧
        st.label v = some c ∧ s.walkCost path = c ∧
        st.wayTo? u st.labels.size v [] = some path ∧
        ∀ walk, s.IsWalk u v walk → AtMost c (s.walkCost walk)) ∧
      ∀ isMatch : Nat → Bool, ∃ path, s.pathToNearest (.int u) isMatch = .ok path ∧
        (path = [] ↔ ∀ v, s.Reaches u v → isMatch v = false) ∧
        (path ≠ [] → ∃ target, isMatch target = true ∧ s.IsPath u target path ∧
          ∀ v walk, isMatch v = true → s.IsWalk u v walk →
            AtMost (s.walkCost path) (s.walkCost walk)) := by
  obtain ⟨e, order, st, spread, final⟩ := exists_paused hs.wellFormed hu finite
  have sharp := (Exact.start hu).run acyclic ((spread_int hu).symm.trans spread)
  have labelled : ∀ i, s.Reaches u i → st.label i ≠ none := fun i => final.label_ne_none_iff.2
  have steps : ∀ i j, s.Reaches u i → s.Linked i j → IsCost (s.stepCost i j) := by
    intro i j reached linked
    have sum := final.finite i j ⟨(final.mem_known i).2 (labelled i reached), linked⟩
    exact ⟨LawfulScalar.isNaN_of_isFinite (LawfulScalar.isFinite_of_add sum).2,
      s.not_stepCost_lt_zero i j⟩
  refine ⟨st, spread, ?_, ?_⟩
  · intro v reached
    obtain ⟨c, hc⟩ := Option.ne_none_iff_exists'.1 (labelled v reached)
    obtain ⟨path, isPath, way⟩ := sharp.wayTo?_size hc
    exact ⟨path, c, isPath, fun other isPath' => isPath'.unique acyclic isPath, hc,
      sharp.cost v c hc path isPath, way,
      fun walk isWalk => sharp.atMost_walkCost labelled steps isWalk hc⟩
  · intro isMatch
    refine ⟨_, pathToNearest_int hu spread isMatch,
      sharp.path_eq_nil_iff_of_reaches (fun _ => final.label_ne_none_iff) isMatch, ?_⟩
    intro nonempty
    obtain ⟨empty, -⟩ | ⟨target, c, closest, -, isPath⟩ := sharp.path_cases isMatch
    · exact absurd empty nonempty
    refine ⟨target, closest.holds, isPath, ?_⟩
    intro v walk fits isWalk
    obtain ⟨d, hd⟩ := Option.ne_none_iff_exists'.1 (labelled v (IsWalk.reaches isWalk))
    have least : AtMost c d :=
      ⟨sharp.isNaN closest.label, sharp.isNaN hd, closest.least v d fits hd⟩
    rw [sharp.cost target c closest.label _ isPath]
    exact least.trans (sharp.atMost_walkCost labelled steps isWalk hd)

/-- Two branches of unequal steps. One has two links to its first waypoint, a step that costs
nothing, and a link of a waypoint to itself. -/
def fork : Store Float :=
  (Request.run (.empty .default)
    [.create (.ok 0.0) (.ok 0.0) (.ok (.replicate true)) false,
      .create (.ok 3.0) (.ok 0.0) (.ok (.replicate true)) false,
      .create (.ok 0.0) (.ok 1.0) (.ok (.replicate true)) false,
      .create (.ok 0.0) (.ok 1.0) (.ok (.replicate false)) false,
      .create (.ok 5.0) (.ok 0.0) (.ok (.replicate false)) false,
      .connect (.int 0) (.ok .east) (.int 1), .connect (.int 0) (.ok .north) (.int 2),
      .connect (.int 0) (.ok .west) (.int 2), .connect (.int 2) (.ok .north) (.int 3),
      .connect (.int 3) (.ok .east) (.int 3), .connect (.int 1) (.ok .east) (.int 4)]).store

theorem sumsFinite_fork : fork.SumsFinite 0 := by
  have ended : (rounds fork 9 (.start fork.size 0)).toOption.map (·.queue) = some [] := by
    decide +kernel
  have finite : ∀ x ∈ expansions fork 9 (.start fork.size 0),
      ∀ j ∈ neighborsAt fork x.1, ∀ c ∈ x.2,
        Scalar.isFinite (c + fork.stepCost x.1 j) = true := by
    decide +kernel
  obtain ⟨st, run, queue⟩ := exists_of_rounds ended
  exact sumsFinite_of_rounds run queue finite

theorem isAcyclic_fork : (fork.surroundings 0).IsAcyclic := by
  have reachable : fork.Reachable := ⟨_, _, rfl⟩
  have lower : ∀ i < 5, ∀ j ∈ neighborsAt fork i, ∀ k ∈ neighborsAt fork i,
      j < i → k < i → j = k := by
    decide
  refine isAcyclic_of_lower reachable.wellFormed 0 ?_
  intro i j k linked linked'
  have size : fork.size = 5 := rfl
  obtain ⟨h, hl⟩ := linked
  exact lower i (size ▸ lt_size_of_link hl) j (mem_neighborsAt_iff.2 ⟨h, hl⟩) k
    (mem_neighborsAt_iff.2 linked')

/-- The farther frontier has the cost of the way to it for a label; the path to the nearer one
costs no more than the walk there. -/
theorem spread_exact_of_acyclic_fork :
    fork.Reachable ∧ (fork.surroundings 0).IsAcyclic ∧ fork.SumsFinite 0 ∧
      ∃ st path, fork.spread (.int 0) = .ok st ∧ st.label 4 = some 13.0 ∧
        st.wayTo? 0 st.labels.size 4 [] = some [0, 1, 4] ∧
        fork.pathToFrontier (.int 0) = .ok path ∧ path ≠ [] ∧
        AtMost (fork.walkCost path) 1.0 := by
  have reachable : fork.Reachable := ⟨_, _, rfl⟩
  have far : fork.IsPath 0 4 [0, 1, 4] :=
    ⟨rfl, rfl, by decide, .cons_cons ⟨.east, by decide⟩ (.cons_cons ⟨.east, by decide⟩
      (.singleton 4))⟩
  have near : fork.IsWalk 0 3 [0, 2, 3] :=
    ⟨rfl, rfl, .cons_cons ⟨.west, by decide⟩ (.cons_cons ⟨.north, by decide⟩ (.singleton 3))⟩
  have dear : fork.walkCost [0, 1, 4] = 13.0 := by decide +kernel
  have cheap : fork.walkCost [0, 2, 3] = 1.0 := by decide +kernel
  have frontier : fork.isFrontier 3 = true := by decide
  obtain ⟨st, spread, labels, paths⟩ :=
    spread_exact_of_acyclic reachable (by decide) isAcyclic_fork sumsFinite_fork
  obtain ⟨back, c, -, unique, label, cost, way, -⟩ := labels 4 (IsWalk.reaches far.isWalk)
  obtain rfl := unique _ far
  obtain ⟨path, answer, empty, found⟩ := paths fork.isFrontier
  have nonempty : path ≠ [] := by
    intro nil
    cases frontier.symm.trans (empty.1 nil 3 (IsWalk.reaches near))
  obtain ⟨target, -, -, least⟩ := found nonempty
  refine ⟨reachable, isAcyclic_fork, sumsFinite_fork, st, path, spread, ?_, way, answer, nonempty,
    ?_⟩
  · rw [label, ← cost, dear]
  · exact cheap ▸ least 3 [0, 2, 3] frontier near

end Store

end WaypointMap
