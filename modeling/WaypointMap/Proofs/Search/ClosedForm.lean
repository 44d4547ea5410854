import WaypointMap.Proofs.Graph.Change
import WaypointMap.Proofs.Search.Discovery
import WaypointMap.Proofs.Search.Nearest
import WaypointMap.Proofs.Search.Offers

/-!
# The closed form of a search

Where no sum leaves the finite range, a search expands the waypoints in the order of their
discovery, each of them once. The label at which a waypoint is expanded is the least offer of
those that come before it in this order; the label it ends with is the least offer of all, and
its predecessor is the first that makes this offer.
-/

namespace WaypointMap

namespace Search

variable {K : Type} [Scalar K]

/-- What is known of a search while the waypoints of `order` are expanded: `known` starts with
them and goes on with those that wait, `e` is the label at which each was expanded, and `made`
tells which offers were made. -/
structure Explored (s : Store K) (start : Nat) (e : Nat → K) (made : Nat → Nat → Prop)
    (order known : List Nat) (st : Search K) : Prop where
  rooted : Rooted s start st
  expanded_size : st.expanded.size = s.size
  nodup : known.Nodup
  earlier : order <+: known
  fresh : ∀ j, j < s.size → (st.isFresh j = true ↔ j ∉ order)
  pending : (st.queue.filter st.isFresh).eraseDups = known.drop order.length
  mem_known : ∀ j, j ∈ known ↔ st.label j ≠ none
  finite : ∀ p j, made p j → Scalar.isFinite (e p + s.stepCost p j) = true
  best : ∀ j ∈ known, j ≠ start → ∃ p,
    IsFirstLeast order (made · j) (fun q => e q + s.stepCost q j) p ∧
      st.predecessor j = some p ∧ st.label j = some (e p + s.stepCost p j)
  unknown : ∀ j, j ∉ known → st.predecessor j = none ∧ ∀ p, ¬ made p j

variable {s : Store K} {start : Nat} {e : Nat → K} {made : Nat → Nat → Prop}
  {order known front : List Nat} {st : Search K} {i j : Nat}

namespace Explored

theorem lt_size (h : Explored s start e made order known st) (hj : j ∈ known) : j < s.size := by
  cases hl : st.label j with
  | none => exact absurd hl ((h.mem_known j).1 hj)
  | some c => exact h.rooted.labels_size ▸ lt_size_of_label hl

theorem mem_of_mem_order (h : Explored s start e made order known st) (hj : j ∈ order) :
    j ∈ known :=
  h.earlier.subset hj

/-- What waits is queued; what is queued again adds nothing. -/
theorem mem_queue_iff (h : Explored s start e made order known st) :
    j ∈ st.queue.filter st.isFresh ↔ j ∈ known ∧ j ∉ order := by
  rw [← List.mem_eraseDups, h.pending]
  obtain ⟨waiting, rfl⟩ := h.earlier
  have apart := List.nodup_append.1 h.nodup
  rw [List.drop_left, List.mem_append]
  constructor
  · intro hj
    exact ⟨.inr hj, fun hj' => apart.2.2 j hj' j hj rfl⟩
  · rintro ⟨hj | hj, hj'⟩
    · exact absurd hj hj'
    · exact hj

theorem pending_improve (h : Explored s start e made order known st) (hj : j < s.size)
    (cost : K) :
    ((st.improve i j cost).queue.filter (st.improve i j cost).isFresh).eraseDups =
      (if j ∈ known then known else known ++ [j]).drop order.length := by
  have queue : (st.improve i j cost).queue.filter (st.improve i j cost).isFresh =
      st.queue.filter st.isFresh ++ [j].filter st.isFresh :=
    List.filter_append ..
  have short : order.length ≤ known.length := h.earlier.length_le
  rw [queue]
  by_cases expanded : j ∈ order
  · have stale : ¬ st.isFresh j = true := fun fresh => (h.fresh j hj).1 fresh expanded
    rw [if_pos (h.mem_of_mem_order expanded), List.filter_cons_of_neg stale, List.filter_nil,
      List.append_nil, h.pending]
  · rw [List.filter_cons_of_pos ((h.fresh j hj).2 expanded), List.filter_nil]
    split
    next old =>
      rw [eraseDups_concat_of_mem (h.mem_queue_iff.2 ⟨old, expanded⟩), h.pending]
    next new =>
      rw [eraseDups_concat_of_not_mem fun again => new (h.mem_queue_iff.1 again).1, h.pending,
        List.drop_append_of_le_length short]

variable [LawfulScalar K]

theorem isNaN (h : Explored s start e made order known st) {p : Nat} (hm : made p j) :
    Scalar.isNaN (e p + s.stepCost p j) = false :=
  LawfulScalar.isNaN_of_isFinite (h.finite p j hm)

omit [LawfulScalar K] in
theorem not_mem_front (h : Explored s start e made (front ++ [i]) known st) : i ∉ front := by
  intro hi
  have nodup := h.nodup.sublist h.earlier.sublist
  exact (List.nodup_append.1 nodup).2.2 i hi i (List.mem_singleton_self i) rfl

theorem improve (h : Explored s start e made (front ++ [i]) known st)
    (hi : st.label i = some (e i)) (linked : s.Linked i j) (hj : j < s.size)
    (finite : Scalar.isFinite (e i + s.stepCost i j) = true)
    (better : improves (e i + s.stepCost i j) (st.label j) = true) :
    Explored s start e (fun p k => made p k ∨ p = i ∧ k = j) (front ++ [i])
      (if j ∈ known then known else known ++ [j])
      (st.improve i j (e i + s.stepCost i j)) := by
  have labels : ∀ k, (st.improve i j (e i + s.stepCost i j)).label k =
      if j = k then some (e i + s.stepCost i j) else st.label k := fun k =>
    label_improve (h.rooted.labels_size ▸ hj)
  have predecessors : ∀ k, (st.improve i j (e i + s.stepCost i j)).predecessor k =
      if j = k then some i else st.predecessor k := fun k =>
    predecessor_improve (h.rooted.predecessors_size ▸ hj)
  have known' : ∀ k, k ∈ (if j ∈ known then known else known ++ [j]) ↔ k ∈ known ∨ k = j :=
    fun k => mem_seen_iff
  have last : i ∉ front := h.not_mem_front
  exact {
    rooted := h.rooted.improve linked hj hi (s.not_stepCost_lt_zero i j) better
    expanded_size := h.expanded_size
    nodup := nodup_seen h.nodup j
    earlier := by
      split
      · exact h.earlier
      · exact h.earlier.trans (List.prefix_append known [j])
    fresh := h.fresh
    pending := h.pending_improve hj _
    mem_known := by
      intro k
      rw [known', labels, h.mem_known]
      split
      next same => simp [same]
      next other => simp [Ne.symm other]
    finite := by
      rintro p k (hm | ⟨rfl, rfl⟩)
      · exact h.finite p k hm
      · exact finite
    best := by
      intro k hk hks
      rw [labels, predecessors]
      split
      next same =>
        subst same
        refine ⟨i, ?_, rfl, rfl⟩
        have same : ∀ q, (made q j ∨ q = i ∧ j = j) ↔ made q j ∨ q = i := by simp
        -- either `i` beats the best offer so far, or its offer is the first that `j` gets
        by_cases old : j ∈ known
        · obtain ⟨p, best, -, hl⟩ := h.best j old hks
          rw [hl] at better
          exact best.improve last same (fun q hq => h.isNaN hq) (of_decide_eq_true better)
        · refine IsFirstLeast.last (.inr ⟨rfl, rfl⟩) ?_
          rintro q hq (hm | ⟨rfl, -⟩)
          · exact absurd hm ((h.unknown j old).2 q)
          · exact absurd hq last
      next other =>
        obtain ⟨p, best, hp, hl⟩ := h.best k (((known' k).1 hk).resolve_right (Ne.symm other)) hks
        refine ⟨p, best.congr fun q _ => ⟨?_, rfl⟩, hp, hl⟩
        simp [Ne.symm other]
    unknown := by
      intro k hk
      have hk' : k ∉ known ∧ k ≠ j := by simpa [known'] using hk
      rw [predecessors, if_neg hk'.2.symm]
      obtain ⟨hp, none⟩ := h.unknown k hk'.1
      refine ⟨hp, ?_⟩
      rintro p (hm | ⟨-, rfl⟩)
      · exact none p hm
      · exact hk'.2 rfl }

omit [LawfulScalar K] in
theorem decline (h : Explored s start e made (front ++ [i]) known st)
    (finite : Scalar.isFinite (e i + s.stepCost i j) = true)
    (worse : ¬ improves (e i + s.stepCost i j) (st.label j) = true) :
    Explored s start e (fun p k => made p k ∨ p = i ∧ k = j) (front ++ [i])
      (if j ∈ known then known else known ++ [j]) st := by
  -- a finite cost improves a missing label
  have old : j ∈ known := by
    rw [h.mem_known]
    intro unlabelled
    rw [unlabelled] at worse
    exact worse finite
  rw [if_pos old]
  exact {
    rooted := h.rooted
    expanded_size := h.expanded_size
    nodup := h.nodup
    earlier := h.earlier
    fresh := h.fresh
    pending := h.pending
    mem_known := h.mem_known
    finite := by
      rintro p k (hm | ⟨rfl, rfl⟩)
      · exact h.finite p k hm
      · exact finite
    best := by
      intro k hk hks
      obtain ⟨p, best, hp, hl⟩ := h.best k hk hks
      refine ⟨p, ?_, hp, hl⟩
      by_cases same : k = j
      · subst same
        rw [hl] at worse
        exact best.keep h.not_mem_front (by simp) fun lt => worse (decide_eq_true lt)
      · exact best.congr fun q _ => ⟨by simp [same], rfl⟩
    unknown := by
      intro k hk
      obtain ⟨hp, none⟩ := h.unknown k hk
      refine ⟨hp, ?_⟩
      rintro p (hm | ⟨-, rfl⟩)
      · exact none p hm
      · exact hk old }

theorem offered (h : Explored s start e made (front ++ [i]) known st)
    (hi : st.label i = some (e i)) (linked : s.Linked i j) (hj : j < s.size)
    (finite : Scalar.isFinite (e i + s.stepCost i j) = true) :
    Explored s start e (fun p k => made p k ∨ p = i ∧ k = j) (front ++ [i])
        (if j ∈ known then known else known ++ [j]) (st.offered i j (s.stepCost i j)) ∧
      (st.offered i j (s.stepCost i j)).label i = some (e i) := by
  unfold Search.offered
  by_cases better : improves (e i + s.stepCost i j) (st.label j) = true
  · simp only [hi, if_pos better]
    refine ⟨h.improve hi linked hj finite better, ?_⟩
    rw [label_improve (h.rooted.labels_size ▸ hj), if_neg (ne_of_improves hi better), hi]
  · simp only [hi, if_neg better]
    exact ⟨h.decline finite better, trivial⟩

omit [LawfulScalar K] in
theorem congr_made {made' : Nat → Nat → Prop} (h : Explored s start e made order known st)
    (same : ∀ p k, made' p k ↔ made p k) : Explored s start e made' order known st := by
  obtain rfl : made' = made := by
    funext p k
    exact propext (same p k)
  exact h

theorem offerAll (hs : s.InRange) {js : List Nat}
    (h : Explored s start e made (front ++ [i]) known st) (hi : st.label i = some (e i))
    (linked : ∀ j ∈ js, s.Linked i j)
    (finite : ∀ j ∈ js, Scalar.isFinite (e i + s.stepCost i j) = true) :
    ∃ st', Search.offerAll s i st js = .ok st' ∧
      Explored s start e (fun p k => made p k ∨ p = i ∧ k ∈ js) (front ++ [i])
        (discover known js) st' := by
  induction js generalizing made known st with
  | nil => exact ⟨st, rfl, h.congr_made (by simp)⟩
  | cons j js ih =>
    have hlinked := linked j (List.mem_cons_self ..)
    have hfinite := finite j (List.mem_cons_self ..)
    obtain ⟨w, hw⟩ : ∃ w, s.waypoints[i]? = some w := by
      obtain ⟨_, hl⟩ := hlinked
      exact Store.exists_waypoint (Store.lt_size_of_link hl)
    have hj : j < s.size := by
      obtain ⟨_, hl⟩ := hlinked
      exact hs hl
    obtain ⟨v, hv⟩ := Store.exists_waypoint hj
    have cost : s.stepCost i j = w.stepCost v := by
      rw [Store.stepCost, hw, hv]
    have step : w.squaredStep v = .ok (s.stepCost i j) := by
      rw [cost]
      exact Waypoint.squaredStep_of_isFinite (cost ▸ (LawfulScalar.isFinite_of_add hfinite).2)
    obtain ⟨h', hi'⟩ := h.offered hi hlinked hj hfinite
    obtain ⟨st', run, explored⟩ := ih h' hi'
      (fun k hk => linked k (List.mem_cons_of_mem _ hk))
      fun k hk => finite k (List.mem_cons_of_mem _ hk)
    refine ⟨st', ?_, explored.congr_made fun p k => ?_⟩
    · rw [Search.offerAll, offer_eq_ok hw hv step]
      exact run
    · simp only [List.mem_cons, or_assoc, ← and_or_left]

end Explored

/-! ## Rounds -/

/-- A search between two rounds: each waypoint of `order` has made its offers to all of its
neighbors. -/
structure Paused (s : Store K) (start : Nat) (e : Nat → K) (order known : List Nat)
    (st : Search K) : Prop
    extends Explored s start e (fun p j => p ∈ order ∧ s.Linked p j) order known st where
  discovered : known = WaypointMap.discovered (neighborsAt s) start order.length
  head : known[0]? = some start
  source_cost : ∀ o, order[0]? = some o → e o = 0.0
  entry : ∀ (k o : Nat), 0 < k → order[k]? = some o →
    ∃ p, s.IsBestOffer e (order.take k) o p ∧ e o = e p + s.stepCost p o

omit [Scalar K] in
theorem isFresh_setExpanded (st : Search K) (rest : List Nat) (i j : Nat) :
    ({ st with queue := rest, expanded := st.expanded.setIfInBounds i true } : Search K).isFresh j =
      (!(j == i) && st.isFresh j) := by
  simp only [isFresh, Array.getElem?_setIfInBounds]
  by_cases same : j = i
  · subst same
    by_cases hj : j < st.expanded.size <;> simp [hj]
  · simp [same, Ne.symm same]

theorem paused_start [LawfulScalar K] (hs : start < s.size) (e : Nat → K) :
    Paused s start e [] [start] (.start s.size start) where
  rooted := rooted_start hs
  expanded_size := by simp [Search.start]
  nodup := by simp
  earlier := List.nil_prefix
  fresh := by
    intro j hj
    simp [isFresh, Search.start, hj]
  pending := by
    have fresh : (Search.start s.size start : Search K).isFresh start = true := by
      simp [isFresh, Search.start, hs]
    have queue : (Search.start s.size start : Search K).queue = [start] := rfl
    rw [queue, List.filter_cons_of_pos fresh]
    simp [List.eraseDups_cons]
  mem_known := by
    intro j
    rw [label_start, List.mem_singleton]
    by_cases same : start = j
    · simp [← same, hs]
    · simp [same, Ne.symm same]
  finite := by
    rintro p j ⟨hp, -⟩
    cases hp
  best := by
    intro j hj hjs
    exact absurd (List.mem_singleton.1 hj) hjs
  unknown := by
    intro j _
    refine ⟨predecessor_start s.size start j, ?_⟩
    rintro p ⟨hp, -⟩
    cases hp
  discovered := rfl
  head := rfl
  source_cost := by
    intro o ho
    cases ho
  entry := by
    intro k o _ ho
    cases ho

namespace Paused

variable {rest : List Nat}

theorem skip (h : Paused s start e order known st) (waiting : st.queue = i :: rest)
    (stale : ¬ st.isFresh i = true) :
    Paused s start e order known { st with queue := rest } := by
  have pending := h.pending
  rw [waiting, List.filter_cons_of_neg stale] at pending
  exact {
    rooted := { h.rooted with }
    expanded_size := h.expanded_size
    nodup := h.nodup
    earlier := h.earlier
    fresh := h.fresh
    pending := pending
    mem_known := h.mem_known
    finite := h.finite
    best := h.best
    unknown := h.unknown
    discovered := h.discovered
    head := h.head
    source_cost := h.source_cost
    entry := h.entry }

theorem next_known (h : Paused s start e order known st) (waiting : st.queue = i :: rest)
    (fresh : st.isFresh i = true) :
    known.drop order.length = i :: (rest.filter fun j => !(j == i) && st.isFresh j).eraseDups := by
  rw [← h.pending, waiting, List.filter_cons_of_pos fresh, List.eraseDups_cons, List.filter_filter]

omit [Scalar K] in
theorem update_eq {c : K} (hi : i ∉ order) {p : Nat} (hp : p ∈ order) :
    Function.update e i c p = e p := by
  refine Function.update_of_ne ?_ c e
  rintro rfl
  exact hi hp

theorem mem_of_fresh (h : Paused s start e order known st) (waiting : st.queue = i :: rest)
    (fresh : st.isFresh i = true) : i ∈ known ∧ i ∉ order := by
  rw [← h.mem_queue_iff, waiting, List.filter_cons_of_pos fresh]
  exact List.mem_cons_self ..

theorem opened (h : Paused s start e order known st) (waiting : st.queue = i :: rest)
    (fresh : st.isFresh i = true) (c : K) :
    Explored s start (Function.update e i c) (fun p j => p ∈ order ∧ s.Linked p j) (order ++ [i])
      known { st with queue := rest, expanded := st.expanded.setIfInBounds i true } := by
  obtain ⟨-, new⟩ := h.mem_of_fresh waiting fresh
  have next := h.next_known waiting fresh
  -- `i` joins `order` before it makes an offer, so no best offer changes yet
  exact {
    rooted := { h.rooted with }
    expanded_size := by rw [Array.size_setIfInBounds, h.expanded_size]
    nodup := h.nodup
    earlier := by
      refine ⟨known.drop (order.length + 1), ?_⟩
      rw [List.append_assoc, List.singleton_append, ← List.tail_drop, next, List.tail_cons, ← next]
      exact List.prefix_iff_eq_append.1 h.earlier
    fresh := by
      intro j hj
      rw [isFresh_setExpanded, List.mem_append, List.mem_singleton, Bool.and_eq_true,
        h.fresh j hj]
      simp [not_or, and_comm]
    pending := by
      rw [List.length_append, List.length_singleton, ← List.tail_drop, next, List.tail_cons]
      congr 2
      funext j
      exact isFresh_setExpanded st rest i j
    mem_known := h.mem_known
    finite := by
      rintro p j ⟨hp, linked⟩
      rw [update_eq new hp]
      exact h.finite p j ⟨hp, linked⟩
    best := by
      intro j hj hjs
      obtain ⟨p, best, hp, hl⟩ := h.best j hj hjs
      refine ⟨p, ?_, hp, ?_⟩
      · refine (best.congr fun q hq => ⟨Iff.rfl, ?_⟩).concat fun made => new made.1
        rw [update_eq new hq]
      · rw [update_eq new best.mem]
        exact hl
    unknown := h.unknown }

variable [LawfulScalar K]

omit [LawfulScalar K] in
theorem index (h : Paused s start e order known st) (waiting : st.queue = i :: rest)
    (fresh : st.isFresh i = true) : known[order.length]? = some i := by
  rw [← Nat.add_zero order.length, ← List.getElem?_drop, h.next_known waiting fresh,
    List.getElem?_cons_zero]

omit [LawfulScalar K] in
theorem ne_start (h : Paused s start e order known st) {k o : Nat} (later : 0 < k)
    (ho : known[k]? = some o) : o ≠ start := by
  rintro rfl
  have bound := (List.getElem?_eq_some_iff.1 ho).1
  have same := (List.getElem?_inj bound h.nodup).1 (ho.trans h.head.symm)
  omega

omit [LawfulScalar K] in
/-- Apart from the start, a known waypoint has the label and the predecessor of its best offer. -/
theorem bestOffer (h : Paused s start e order known st) {k o : Nat} (later : 0 < k)
    (ho : known[k]? = some o) :
    ∃ p, s.IsBestOffer e order o p ∧ st.predecessor o = some p ∧
      st.label o = some (e p + s.stepCost p o) := by
  obtain ⟨p, best, found⟩ := h.best o (List.mem_of_getElem? ho) (h.ne_start later ho)
  exact ⟨p, best.congr fun q hq => ⟨(and_iff_right hq).symm, rfl⟩, found⟩

theorem expand (hs : s.InRange) (h : Paused s start e order known st)
    (waiting : st.queue = i :: rest) (fresh : st.isFresh i = true)
    (finite : ∀ c, st.label i = some c →
      ∀ j, s.Linked i j → Scalar.isFinite (c + s.stepCost i j) = true) :
    ∃ c st', st.label i = some c ∧ round s i rest st = .ok st' ∧
      Paused s start (Function.update e i c) (order ++ [i]) (discover known (neighborsAt s i))
        st' := by
  obtain ⟨hi, new⟩ := h.mem_of_fresh waiting fresh
  obtain ⟨c, hc⟩ := Option.ne_none_iff_exists'.1 ((h.mem_known i).1 hi)
  have index := h.index waiting fresh
  have cost : Function.update e i c i = c := Function.update_self i c e
  have sums : ∀ j ∈ neighborsAt s i,
      Scalar.isFinite (Function.update e i c i + s.stepCost i j) = true := by
    intro j hj
    rw [cost]
    exact finite c hc j (mem_neighborsAt_iff.1 hj)
  obtain ⟨st', run, explored⟩ := (h.opened waiting fresh c).offerAll hs
    (by rw [cost]; exact hc) (fun j hj => mem_neighborsAt_iff.1 hj) sums
  refine ⟨c, st', hc, ?_, ?_⟩
  · rw [round_of_fresh fresh]
    exact run
  · exact {
      toExplored := by
        refine explored.congr_made fun p k => ?_
        rw [List.mem_append, List.mem_singleton, or_and_right, mem_neighborsAt_iff]
        refine or_congr_right (and_congr_right ?_)
        rintro rfl
        exact Iff.rfl
      discovered := by
        rw [List.length_append, List.length_singleton, discovered_succ (h.discovered ▸ index),
          ← h.discovered]
      head := getElem?_of_isPrefix (prefix_discover known (neighborsAt s i)) h.head
      source_cost := by
        intro o ho
        cases order with
        | nil =>
          cases ho
          cases index.symm.trans h.head
          rw [cost]
          exact Option.some.inj (hc.symm.trans h.rooted.source_label)
        | cons a l =>
          cases ho
          rw [update_eq new (List.mem_cons_self ..)]
          exact h.source_cost o rfl
      entry := by
        intro k o hk ho
        by_cases old : k < order.length
        · rw [List.getElem?_append_left old] at ho
          obtain ⟨p, best, sum⟩ := h.entry k o hk ho
          have mem : ∀ q ∈ order.take k, q ∈ order := fun q hq => List.mem_of_mem_take hq
          refine ⟨p, ?_, ?_⟩
          · rw [List.take_append_of_le_length old.le]
            refine best.congr fun q hq => ⟨Iff.rfl, ?_⟩
            rw [update_eq new (mem q hq)]
          · rw [update_eq new (mem p best.mem), update_eq new (List.mem_of_getElem? ho), sum]
        -- the waypoint just expanded: its label was the best offer of all before it
        · have bound := (List.getElem?_eq_some_iff.1 ho).1
          rw [List.length_append, List.length_singleton] at bound
          obtain rfl : k = order.length := by omega
          rw [List.getElem?_concat_length] at ho
          cases ho
          obtain ⟨p, best, -, hl⟩ := h.bestOffer hk index
          have sum := Option.some.inj (hc.symm.trans hl)
          refine ⟨p, ?_, ?_⟩
          · rw [List.take_left]
            refine best.congr fun q hq => ⟨Iff.rfl, ?_⟩
            rw [update_eq new hq]
          · rw [cost, update_eq new best.mem, sum] }

theorem run (hs : s.InRange) (h : Paused s start e order known st)
    (finite : ∀ n i c, (i, some c) ∈ expansions s n st →
      ∀ j, s.Linked i j → Scalar.isFinite (c + s.stepCost i j) = true) :
    ∃ (e' : Nat → K) (later : List Nat) (st' : Search K) (n : Nat),
      Search.run s st = .ok st' ∧ rounds s n st = .ok st' ∧ st'.queue = [] ∧
        expansions s n st = later.map (fun o => (o, some (e' o))) ∧
        (∀ p ∈ order, e' p = e p) ∧
        Paused s start e' (order ++ later) (order ++ later) st' := by
  -- A round that expands a waypoint puts it at the end of `order` and fixes `e` there; every
  -- other round only takes an entry off the queue.
  induction st using run.induct s generalizing e order known with
  | case1 st waiting =>
    have all : known = order := by
      have none := h.pending
      rw [waiting] at none
      have short := List.drop_eq_nil_iff.1 none.symm
      exact (h.earlier.eq_of_length_le short).symm
    subst all
    refine ⟨e, [], st, 0, run_of_nil waiting, rfl, waiting, rfl, fun _ _ => rfl, ?_⟩
    rwa [List.append_nil]
  | case2 st i rest waiting error failed =>
    by_cases fresh : st.isFresh i = true
    · obtain ⟨c, st', -, run, -⟩ := h.expand hs waiting fresh fun c hc =>
        finite 1 i c (hc ▸ mem_expansions waiting fresh 0)
      cases failed.symm.trans run
    · rw [round_of_stale fresh] at failed
      cases failed
  | case3 st i rest waiting st₁ run₁ smaller ih =>
    by_cases fresh : st.isFresh i = true
    · obtain ⟨c, st', hc, run, paused⟩ := h.expand hs waiting fresh fun c hc =>
        finite 1 i c (hc ▸ mem_expansions waiting fresh 0)
      cases run₁.symm.trans run
      obtain ⟨e', later, st', n, ran, after, ended, expanded, same, final⟩ :=
        ih paused fun n j d hd => finite (n + 1) j d (by
          rw [expansions_succ waiting run, if_pos fresh]
          exact List.mem_cons_of_mem _ hd)
      refine ⟨e', i :: later, st', n + 1, ?_, ?_, ended, ?_, ?_, ?_⟩
      · rw [run_of_cons waiting, run]
        exact ran
      · rw [rounds_succ waiting, run]
        exact after
      · have here := same i (List.mem_append_right _ (List.mem_singleton_self i))
        rw [Function.update_self] at here
        rw [expansions_succ waiting run, if_pos fresh, expanded, hc, List.map_cons, here]
      · intro p hp
        rw [same p (List.mem_append_left _ hp), update_eq (h.mem_of_fresh waiting fresh).2 hp]
      · rwa [List.append_assoc, List.singleton_append] at final
    · have run := round_of_stale (s := s) fresh rest
      cases run₁.symm.trans run
      obtain ⟨e', later, st', n, ran, after, ended, expanded, same, final⟩ :=
        ih (h.skip waiting fresh) fun n j d hd => finite (n + 1) j d (by
          rw [expansions_succ waiting run, if_neg fresh]
          exact hd)
      refine ⟨e', later, st', n + 1, ?_, ?_, ended, ?_, same, final⟩
      · rw [run_of_cons waiting, run]
        exact ran
      · rw [rounds_succ waiting, run]
        exact after
      · rw [expansions_succ waiting run, if_neg fresh, expanded]

end Paused

end Search

namespace Store

open Search

variable {K : Type} [Scalar K] [LawfulScalar K]

/-- The search from a waypoint in closed form, if every sum that it computes is finite. It
expands each waypoint once, in the order of discovery, and `e` is the label at that time: the
best offer of the waypoints that come before. The label at the end is the best offer of all
waypoints, and the predecessor is the first that makes it. What is not discovered has neither. -/
theorem spread_closedForm {s : Store K} (hs : s.Reachable) {start : Nat} (h : start < s.size)
    (finite : ∀ n i c, (i, some c) ∈ expansions s n (.start s.size start) →
      ∀ j, s.Linked i j → Scalar.isFinite (c + s.stepCost i j) = true) :
    ∃ (st : Search K) (e : Nat → K) (n : Nat),
      s.spread (.int start) = .ok st ∧
      rounds s n (.start s.size start) = .ok st ∧ st.queue = [] ∧
      expansions s n (.start s.size start) = (s.discovery start).map (fun o => (o, some (e o))) ∧
      (s.discovery start).Nodup ∧ (s.discovery start)[0]? = some start ∧ e start = 0.0 ∧
      (∀ (k o : Nat), 0 < k → (s.discovery start)[k]? = some o →
        (∃ p, s.IsBestOffer e ((s.discovery start).take k) o p ∧ e o = e p + s.stepCost p o) ∧
        ∃ p, s.IsBestOffer e (s.discovery start) o p ∧ st.predecessor o = some p ∧
          st.label o = some (e p + s.stepCost p o)) ∧
      st.label start = some 0.0 ∧ st.predecessor start = none ∧
      ∀ o, o ∉ s.discovery start → st.label o = none ∧ st.predecessor o = none := by
  obtain ⟨e, order, st, n, run, after, ended, expanded, -, final⟩ :=
    (paused_start h fun _ => 0.0).run hs.wellFormed.inRange finite
  rw [List.nil_append] at final
  have short : order.length ≤ s.size := length_le_of_nodup final.nodup fun i hi => final.lt_size hi
  have discovery : s.discovery start = order := by
    rw [Store.discovery, discovered_of_le (le_of_eq ?_) short, ← final.discovered]
    rw [← final.discovered]
  rw [discovery]
  have spread : s.spread (.int start) = .ok st := by
    have resolved := resolve_eq_ok_iff.2 ⟨rfl, h⟩
    simp only [Store.spread, resolved, bind, Except.bind]
    exact run
  refine ⟨st, e, n, spread, after, ended, expanded, final.nodup, final.head,
    final.source_cost start final.head, ?_, final.rooted.source_label,
    final.rooted.source_predecessor, ?_⟩
  · intro k o hk ho
    exact ⟨final.entry k o hk ho, final.bestOffer hk ho⟩
  · intro o ho
    refine ⟨?_, (final.unknown o ho).1⟩
    by_contra labelled
    exact ho ((final.mem_known o).2 labelled)

/-- A waypoint is reached directly first, and at a lower cost by a way of three steps. -/
def shortcut : Store Float :=
  (Request.run (.empty .default)
    [.create (.ok 0.0) (.ok 0.0) (.ok (.replicate true)) false,
      .create (.ok 0.0) (.ok 3.0) (.ok (.replicate true)) false,
      .create (.ok 1.0) (.ok 0.0) (.ok (.replicate true)) false,
      .create (.ok 1.0) (.ok 2.0) (.ok (.replicate true)) false,
      .create (.ok 0.0) (.ok 4.0) (.ok (.replicate true)) false,
      .connect (.int 0) (.ok .north) (.int 1), .connect (.int 0) (.ok .east) (.int 2),
      .connect (.int 2) (.ok .north) (.int 3), .connect (.int 3) (.ok .west) (.int 1),
      .connect (.int 1) (.ok .north) (.int 4)]).store

theorem finite_shortcut :
    ∀ n i c, (i, some c) ∈ expansions shortcut n (.start shortcut.size 0) →
      ∀ j, shortcut.Linked i j → Scalar.isFinite (c + shortcut.stepCost i j) = true := by
  have ended : ((rounds shortcut 9 (.start shortcut.size 0)).toOption.map (·.queue)) =
      some [] := by
    decide +kernel
  have finite : ∀ x ∈ expansions shortcut 9 (.start shortcut.size 0),
      ∀ j ∈ neighborsAt shortcut x.1, ∀ c ∈ x.2,
        Scalar.isFinite (c + shortcut.stepCost x.1 j) = true := by
    decide +kernel
  intro n i c hc j linked
  cases hr : rounds shortcut 9 (.start shortcut.size 0) with
  | error e =>
    rw [hr] at ended
    cases ended
  | ok st =>
    rw [hr] at ended
    exact finite (i, some c) (expansions_subset hr (Option.some.inj ended) n hc) j
      (mem_neighborsAt_iff.2 linked) c rfl

theorem spread_closedForm_shortcut :
    shortcut.Reachable ∧ 0 < shortcut.size ∧ shortcut.discovery 0 = [0, 1, 2, 4, 3] ∧
      ∃ (st : Search Float) (e : Nat → Float), shortcut.spread (.int 0) = .ok st ∧
        (∃ p, shortcut.IsBestOffer e [0] 1 p ∧ e 1 = e p + shortcut.stepCost p 1) ∧
        (∃ p, shortcut.IsBestOffer e [0, 1, 2, 4, 3] 1 p ∧ st.predecessor 1 = some p ∧
          st.label 1 = some (e p + shortcut.stepCost p 1)) := by
  have reachable : shortcut.Reachable := ⟨_, _, rfl⟩
  have some : 0 < shortcut.size := by decide
  have order : shortcut.discovery 0 = [0, 1, 2, 4, 3] := by decide
  obtain ⟨st, e, n, spread, -, -, -, -, -, -, best, -⟩ :=
    spread_closedForm reachable some finite_shortcut
  rw [order] at best
  exact ⟨reachable, some, order, st, e, spread, best 1 1 (by decide) rfl⟩

end Store

end WaypointMap
