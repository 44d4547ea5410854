import WaypointMap.Proofs.Search.Level
import WaypointMap.Proofs.Search.Overflow
import WaypointMap.Proofs.Search.Tie

/-!
# Searches with equal steps

Where all steps cost the same, a search is exact: the label of a waypoint is the cost of one step,
added as often as the level of the waypoint says. Whenever a waypoint is expanded, one that lies a
level below has made its offer before. No other offer is less, so each label is right from the
beginning, and the predecessor lies one level below. So the path that is read back has as few
steps as any walk.
-/

namespace WaypointMap

variable {K : Type} [Scalar K]

/-- A cost that is added some number of times, one after the other. -/
def Scalar.times (c : K) : Nat → K
  | 0 => 0.0
  | n + 1 => times c n + c

open Scalar

namespace Store

variable {s : Store K} {u v i m n : Nat} {c : K}

/-- Whether all steps between waypoints that can be reached have one positive cost, which can be
added once for each waypoint of the store, and every sum is finite and above the one before. -/
structure Uniform (s : Store K) (u : Nat) (c : K) : Prop where
  positive : 0.0 < c
  step : ∀ i j, s.Reaches u i → s.Linked i j → s.stepCost i j = c
  finite : ∀ n, 0 < n → n ≤ s.size → isFinite (times c n) = true
  grows : ∀ n, 0 < n → n < s.size → times c n < times c (n + 1)

namespace Uniform

variable [LawfulZero K]

theorem lt (h : s.Uniform u c) (less : m < n) (bound : n ≤ s.size) : times c m < times c n := by
  have next : ∀ n < s.size, times c n < times c (n + 1) := by
    intro n hn
    obtain rfl | pos := Nat.eq_zero_or_pos n
    · exact LawfulZero.lt_zero_add h.positive
    · exact h.grows n pos hn
  induction n, less using Nat.le_induction with
  | base => exact next m bound
  | succ n _ ih => exact LawfulScalar.lt_trans (ih (Nat.le_of_succ_le bound)) (next n bound)

theorem le_of_not_lt (h : s.Uniform u c) (least : ¬ times c m < times c n) (bound : n ≤ s.size) :
    n ≤ m := by
  by_contra above
  exact least (h.lt (Nat.lt_of_not_le above) bound)

/-- The best offer to a waypoint comes from one level below, once all that are discovered earlier
have made their offers. -/
theorem level_of_isBestOffer (h : s.Uniform u c) (hs : s.InRange) (hu : u < s.size)
    {e : Nat → K} {front : List Nat} {k p : Nat} (early : front <+: s.discovery u)
    (costs : ∀ q ∈ front, ∀ n, s.IsLevel u q n → e q = times c n) (later : 0 < k)
    (hk : k ≤ front.length) (hv : (s.discovery u)[k]? = some v)
    (best : s.IsBestOffer e front v p) :
    ∃ n, s.IsLevel u v (n + 1) ∧ s.IsLevel u p n ∧ e p + s.stepCost p v = times c (n + 1) := by
  have levels : ∀ q ∈ front, ∃ n, s.IsLevel u q n := by
    intro q hq
    exact exists_isLevel_of_discovery hs hu (early.subset hq)
  have offer : ∀ q ∈ front, s.Linked q v → ∀ n, s.IsLevel u q n →
      e q + s.stepCost q v = times c (n + 1) := by
    intro q hq linked n level
    rw [costs q hq n level, h.step q v level.reaches linked]
    rfl
  obtain ⟨n | n, level⟩ := exists_isLevel_of_discovery hs hu (List.mem_of_getElem? hv)
  · obtain rfl := level.eq_start
    have first := eq_of_getElem?_discovery hv (s.getElem?_zero_discovery v)
    omega
  obtain ⟨m, i, hm, hi, linked, lower⟩ := level.exists_earlier hs hu hv
  have hi : i ∈ front := mem_of_isPrefix early (hm.trans_le hk) hi
  have linked' : s.Linked p v := by
    obtain ⟨_, _, _, linked', -⟩ := best
    exact linked'
  obtain ⟨m, lower'⟩ := levels p best.mem
  have sum := offer p best.mem linked' m lower'
  -- the offer from `p` is not above the one from `i`, and cannot be below it either
  have least := best.not_lt hi linked
  rw [offer i hi linked n lower, sum] at least
  have below := h.le_of_not_lt least (lower'.lt_size hs hu)
  have above := lower'.le_succ linked' level
  obtain rfl : m = n := by omega
  exact ⟨m, level, lower', sum⟩

end Uniform

end Store

namespace Search

open Store

variable {s : Store K} {start i j k m n v : Nat} {e : Nat → K} {order known : List Nat}
  {st : Search K} {c : K}

/-! ## Paused searches -/

/-- What is finite at the next expansion of every paused search, is finite at all expansions. -/
theorem Paused.finite_expansions [LawfulScalar K] (hs : s.InRange)
    (next : ∀ e order known st i c, Paused s start e order known st →
      known[order.length]? = some i → st.label i = some c →
      ∀ j, s.Linked i j → isFinite (c + s.stepCost i j) = true)
    (h : Paused s start e order known st) :
    (i, some c) ∈ expansions s n st →
      ∀ j, s.Linked i j → isFinite (c + s.stepCost i j) = true := by
  induction n generalizing e order known st with
  | zero => nofun
  | succ n ih =>
    intro expanded
    cases waiting : st.queue with
    | nil =>
      simp only [expansions, waiting] at expanded
      cases expanded
    | cons k rest =>
      have finite : st.isFresh k = true → ∀ d, st.label k = some d →
          ∀ j, s.Linked k j → isFinite (d + s.stepCost k j) = true :=
        fun fresh d => next e order known st k d h (h.index waiting fresh)
      obtain ⟨fresh, same⟩ | ⟨st₁, run, later⟩ := (mem_expansions_succ_iff waiting).1 expanded
      · obtain ⟨rfl, label⟩ := Prod.mk.inj same
        exact finite fresh c label.symm
      by_cases fresh : st.isFresh k = true
      · obtain ⟨d, st', -, run', paused⟩ := h.expand hs waiting fresh (finite fresh)
        cases run.symm.trans run'
        exact ih paused later
      · cases (round_of_stale fresh rest).symm.trans run
        exact ih (h.skip waiting fresh) later

theorem Paused.length_le [LawfulScalar K] (h : Paused s start e order known st) :
    order.length ≤ s.size :=
  h.earlier.length_le.trans (length_le_of_nodup h.nodup fun _ hi => h.lt_size hi)

/-- What a paused search knows is what is discovered first. -/
theorem Paused.prefix_discovery [LawfulScalar K] (h : Paused s start e order known st) :
    known <+: s.discovery start := by
  rw [h.discovered]
  exact prefix_discovered h.length_le

section Uniform

variable [LawfulZero K] (hs : s.InRange) (hu : start < s.size) (uniform : s.Uniform start c)
include hs hu uniform

/-- Every expanded waypoint was expanded at the cost of its level. -/
theorem Paused.cost_eq_times (h : Paused s start e order known st) :
    ∀ v ∈ order, ∀ n, s.IsLevel start v n → e v = times c n := by
  have indexed : ∀ k v : Nat, order[k]? = some v → ∀ n, s.IsLevel start v n →
      e v = times c n := by
    intro k
    induction k using Nat.strong_induction_on with
    | h k ih =>
      intro v hv n level
      have hv' := getElem?_of_isPrefix h.earlier hv
      obtain rfl | later := Nat.eq_zero_or_pos k
      · cases hv'.symm.trans h.head
        rw [h.source_cost start hv, level.unique (IsLevel.zero s start)]
        rfl
      obtain ⟨p, best, sum⟩ := h.entry k v later hv
      have early : order.take k <+: s.discovery start :=
        ((List.take_prefix k order).trans h.earlier).trans h.prefix_discovery
      have costs : ∀ q ∈ order.take k, ∀ n, s.IsLevel start q n → e q = times c n := by
        intro q hq
        obtain ⟨m, hm, here⟩ := List.mem_take_iff_getElem.1 hq
        exact ih m (by omega) q (here ▸ List.getElem?_eq_getElem (by omega))
      have length : k ≤ (order.take k).length := by
        have := (List.getElem?_eq_some_iff.1 hv).1
        rw [List.length_take]
        omega
      obtain ⟨m, level', -, offer⟩ := uniform.level_of_isBestOffer hs hu early costs later length
        (getElem?_of_isPrefix h.prefix_discovery hv') best
      rw [sum, offer, level.unique level']
  intro v hv
  obtain ⟨k, hk⟩ := List.getElem?_of_mem hv
  exact indexed k v hk

/-- A waypoint has the cost of its level for a label, once those that come before it have made
their offers; and its predecessor lies one level below. -/
theorem Paused.settled (h : Paused s start e order known st) (hk : k ≤ order.length)
    (hv : known[k]? = some v) (level : s.IsLevel start v n) :
    st.label v = some (times c n) ∧
      ∀ p, st.predecessor v = some p → ∃ m, n = m + 1 ∧ s.IsLevel start p m := by
  obtain rfl | later := Nat.eq_zero_or_pos k
  · cases hv.symm.trans h.head
    obtain rfl := level.unique (IsLevel.zero s start)
    refine ⟨h.rooted.source_label, fun p hp => ?_⟩
    cases h.rooted.source_predecessor.symm.trans hp
  obtain ⟨p, best, found, label⟩ := h.bestOffer later hv
  obtain ⟨m, level', lower, offer⟩ := uniform.level_of_isBestOffer hs hu
    (h.earlier.trans h.prefix_discovery) (h.cost_eq_times hs hu uniform) later hk
    (getElem?_of_isPrefix h.prefix_discovery hv) best
  obtain rfl := level.unique level'
  refine ⟨offer ▸ label, fun q hq => ?_⟩
  cases found.symm.trans hq
  exact ⟨m, rfl, lower⟩

end Uniform

end Search

namespace Store

open Search

variable [LawfulZero K] {s : Store K} {u : Nat} {c : K}

theorem Uniform.sumsFinite (h : s.Uniform u c) (hs : s.InRange) (hu : u < s.size) :
    s.SumsFinite u := by
  intro n i d expanded
  refine Paused.finite_expansions hs ?_ (paused_start hu fun _ => 0.0) expanded
  intro e order known st i d paused turn hd j linked
  obtain ⟨n, level⟩ := exists_isLevel_of_discovery hs hu
    (paused.prefix_discovery.mem (List.mem_of_getElem? turn))
  obtain ⟨label, -⟩ := paused.settled hs hu h (Nat.le_refl _) turn level
  cases hd.symm.trans label
  rw [h.step i j level.reaches linked]
  exact h.finite (n + 1) (Nat.succ_pos n) (level.lt_size hs hu)

/-- Where all steps cost the same and can be added up, a search is exact. The label of a waypoint
that can be reached is the cost of a step, added as often as the least number of steps to it. The
answer is a path that is not longer than any walk to a match, and of the matches at this distance
it leads to the lowest; it is empty only if no match can be reached. -/
theorem spread_uniform (hs : s.Reachable) (hu : u < s.size) (uniform : s.Uniform u c) :
    ∃ st, s.spread (.int u) = .ok st ∧
      (∀ v, s.Reaches u v → ∃ n, s.IsLevel u v n ∧ st.label v = some (times c n)) ∧
      ∀ isMatch : Nat → Bool, ∃ path, s.pathToNearest (.int u) isMatch = .ok path ∧
        (path = [] ↔ ∀ v, s.Reaches u v → isMatch v = false) ∧
        (path ≠ [] → ∃ target, isMatch target = true ∧ s.IsPath u target path ∧
          ∀ v walk, isMatch v = true → s.IsWalk u v walk →
            path.length ≤ walk.length ∧ (walk.length = path.length → target ≤ v)) := by
  have inRange := hs.wellFormed.inRange
  obtain ⟨e, order, st, spread, final⟩ :=
    exists_paused hs.wellFormed hu (uniform.sumsFinite inRange hu)
  have settled : ∀ v n, s.IsLevel u v n → st.label v = some (times c n) ∧
      ∀ p, st.predecessor v = some p → ∃ m, n = m + 1 ∧ s.IsLevel u p m := by
    intro v n level
    have known := (final.mem_known v).2 (final.label_ne_none_iff.2 level.reaches)
    obtain ⟨k, hk⟩ := List.getElem?_of_mem known
    exact final.settled inRange hu uniform (List.getElem?_eq_some_iff.1 hk).1.le hk level
  refine ⟨st, spread, ?_, fun isMatch => ?_⟩
  · intro v reached
    obtain ⟨walk, isWalk⟩ := exists_isWalk reached
    obtain ⟨n, level, -⟩ := exists_isLevel isWalk
    exact ⟨n, level, (settled v n level).1⟩
  refine ⟨_, pathToNearest_int hu spread isMatch,
    final.rooted.path_eq_nil_iff_of_reaches (fun _ => final.label_ne_none_iff) isMatch, ?_⟩
  intro nonempty
  obtain ⟨empty, -⟩ | ⟨target, d, closest, way, isPath⟩ := final.rooted.path_cases isMatch
  · exact absurd empty nonempty
  obtain ⟨n, level, -⟩ := exists_isLevel isPath.isWalk
  have length : (st.path u isMatch).length = n + 1 := by
    refine level.length_eq (isPath.leads way) ?_
    intro i j n precedes level'
    exact (settled j n level').2 i precedes
  cases closest.label.symm.trans (settled target n level).1
  refine ⟨target, closest.holds, isPath, fun v walk fits isWalk => ?_⟩
  obtain ⟨m, level', short⟩ := exists_isLevel isWalk
  have label := (settled v m level').1
  have least := uniform.le_of_not_lt (closest.least v _ fits label) (level.lt_size inRange hu).le
  rw [length]
  refine ⟨by omega, fun same => ?_⟩
  obtain rfl : m = n := by omega
  by_contra below
  have lt := closest.lowest v _ fits label (Nat.lt_of_not_le below)
  exact LawfulScalar.lt_asymm lt lt

/-- Four waypoints in a square; only the last one has an unexplored direction. -/
def courtyard : Store Float :=
  (Request.run (.empty .default)
    [.create (.ok 0.0) (.ok 0.0) (.ok (.replicate true)) false,
      .create (.ok 1.0) (.ok 0.0) (.ok (.replicate true)) false,
      .create (.ok 0.0) (.ok 1.0) (.ok (.replicate true)) false,
      .create (.ok 1.0) (.ok 1.0) (.ok (.replicate false)) false,
      .connect (.int 0) (.ok .east) (.int 1), .connect (.int 0) (.ok .north) (.int 2),
      .connect (.int 1) (.ok .north) (.int 3), .connect (.int 2) (.ok .east) (.int 3)]).store

theorem uniform_courtyard : courtyard.Uniform 0 1.0 := by
  have size : courtyard.size = 4 := rfl
  have equal : ∀ i < 4, ∀ j ∈ neighborsAt courtyard i, courtyard.stepCost i j = 1.0 := by
    decide +kernel
  have finite : ∀ n ≤ 4, isFinite (times (1.0 : Float) n) = true := by decide +kernel
  have grows : ∀ n < 4, times (1.0 : Float) n < times 1.0 (n + 1) := by decide +kernel
  refine ⟨by decide +kernel, ?_, fun n _ hn => finite n (size ▸ hn),
    fun n _ hn => grows n (size ▸ hn)⟩
  intro i j _ linked
  obtain ⟨h, hl⟩ := linked
  exact equal i (size ▸ lt_size_of_link hl) j (mem_neighborsAt_iff.2 ⟨h, hl⟩)

theorem isLevel_courtyard : courtyard.IsLevel 0 3 2 := by
  have around : courtyard.IsWalk 0 3 [0, 1, 3] :=
    ⟨rfl, rfl, .cons_cons ⟨.east, by decide⟩ (.cons_cons ⟨.north, by decide⟩ (.singleton 3))⟩
  have apart : 3 ∉ neighborsAt courtyard 0 := by decide
  obtain ⟨n, level, short⟩ := exists_isLevel around
  obtain _ | _ | _ | n := n
  · cases level.eq_start
  · obtain ⟨i, lower, linked⟩ := level.exists_lower
    cases lower.eq_start
    exact absurd (mem_neighborsAt_iff.2 linked) apart
  · exact level
  · have short : n + 4 ≤ 3 := short
    omega

/-- The way to the opposite corner has two steps, and so has the path to the frontier there. -/
theorem spread_uniform_courtyard :
    courtyard.Reachable ∧ courtyard.Uniform 0 1.0 ∧
      ∃ st path, courtyard.spread (.int 0) = .ok st ∧ st.label 3 = some 2.0 ∧
        courtyard.pathToFrontier (.int 0) = .ok path ∧ path ≠ [] ∧ path.length ≤ 3 := by
  have reachable : courtyard.Reachable := ⟨_, _, rfl⟩
  have frontier : courtyard.isFrontier 3 = true := by decide
  have sum : times (1.0 : Float) 2 = 2.0 := by decide +kernel
  obtain ⟨st, spread, labels, paths⟩ := spread_uniform reachable (by decide) uniform_courtyard
  obtain ⟨n, level, label⟩ := labels 3 isLevel_courtyard.reaches
  obtain rfl := level.unique isLevel_courtyard
  obtain ⟨path, answer, empty, found⟩ := paths courtyard.isFrontier
  have nonempty : path ≠ [] := by
    intro nil
    cases frontier.symm.trans (empty.1 nil 3 level.reaches)
  obtain ⟨walk, isWalk, length⟩ := level.1
  obtain ⟨target, -, -, least⟩ := found nonempty
  refine ⟨reachable, uniform_courtyard, st, path, spread, sum ▸ label, answer, nonempty, ?_⟩
  exact (least 3 walk frontier isWalk).1.trans_eq length

end Store

end WaypointMap
