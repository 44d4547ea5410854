import WaypointMap.Proofs.Search.Reach

/-!
# What a path passes

Inside a path, the waypoints before and after one are different, and both are linked with it. A
match that lies on the way to the closest one has the same label and a higher id.
-/

namespace WaypointMap

open Relation (ReflTransGen)

variable {K : Type}

namespace Store

variable {s : Store K} {source target a k b : Nat} {path : List Nat}

theorem IsPath.passed (h : s.IsPath source target path) (inner : [a, k, b] <:+: path) :
    s.Linked a k ∧ s.Linked k b ∧ a ≠ b := by
  have linked := h.linked.infix inner
  have nodup := h.nodup.sublist inner.sublist
  rw [List.isChain_cons_cons, List.isChain_cons_cons] at linked
  refine ⟨linked.1, linked.2.1, ?_⟩
  rintro rfl
  simp at nodup

theorem IsPath.ne_last (h : s.IsPath source target path) (inner : [a, k, b] <:+: path) :
    k ≠ target := by
  obtain ⟨before, after, rfl⟩ := inner
  have shape : before ++ [a, k, b] ++ after = (before ++ [a, k]) ++ (b :: after) := by simp
  have last := h.last
  have nodup := h.nodup
  rw [shape, List.getLast?_append_of_ne_nil _ (List.cons_ne_nil b after)] at last
  rw [shape, List.nodup_append] at nodup
  exact nodup.2.2 k (by simp) target (List.mem_of_getLast? last)

theorem IsPath.eq_singleton (h : s.IsPath source source path) : path = [source] := by
  cases path with
  | nil => cases h.head
  | cons a l =>
    cases h.head
    cases l with
    | nil => rfl
    | cons b l =>
      have last := h.last
      rw [List.getLast?_cons_cons] at last
      exact absurd (List.mem_of_getLast? last) (List.nodup_cons.1 h.nodup).1

end Store

namespace Search

variable {st : Search K} {source target : Nat} {path : List Nat}

/-- What holds of the end of a way, and still holds with a predecessor in front, holds of all that
is read on the way back. -/
theorem wayTo?_induction {P : List Nat → Prop} {bound i : Nat} {later : List Nat}
    (way : st.wayTo? source bound i later = some path)
    (back : ∀ p i later, st.Precedes p i → P (i :: later) → P (p :: i :: later))
    (hP : P (i :: later)) : P path := by
  induction bound generalizing i later with
  | zero =>
    rw [wayTo?] at way
    split at way
    · cases way
      exact hP
    · cases way
  | succ bound ih =>
    rw [wayTo?] at way
    split at way
    · cases way
      exact hP
    split at way
    · next p hp => exact ih way (back p i later hp hP)
    · cases way

/-- Whatever is read on the way back from a waypoint comes before it. -/
theorem precedes_of_mem_way {bound : Nat}
    (way : st.wayTo? source bound target [] = some path) :
    ∀ j ∈ path, ReflTransGen st.Precedes j target := by
  refine wayTo?_induction (P := fun path => ∀ j ∈ path, ReflTransGen st.Precedes j target) way
    ?_ ?_
  · intro p i later hp before j hj
    rcases List.mem_cons.1 hj with rfl | hj
    · exact .head hp (before i (List.mem_cons_self ..))
    · exact before j hj
  · intro j hj
    rw [List.mem_singleton.1 hj]

/-- What is read on the way back are predecessors. -/
theorem isChain_of_wayTo? {bound : Nat} (way : st.wayTo? source bound target [] = some path) :
    path.IsChain st.Precedes :=
  wayTo?_induction way (fun _ _ _ hp chain => .cons_cons hp chain) (.singleton target)

variable [Scalar K] {s : Store K} {isMatch : Nat → Bool} {a k b : Nat}

theorem Rooted.lt_size_of_mem_path [LawfulScalar K] (h : Rooted s source st)
    (isMatch : Nat → Bool) : ∀ i ∈ st.path source isMatch, i < s.size := by
  intro i hi
  rcases h.path_cases isMatch with ⟨empty, -⟩ | ⟨target, c, closest, way, -⟩
  · rw [empty] at hi
    cases hi
  · obtain ⟨d, hd, -⟩ := h.label_of_precedes (precedes_of_mem_way way i hi) closest.label
    exact h.labels_size ▸ lt_size_of_label hd

/-- Of two matches on the way to the closest one, neither has the lesser label. -/
theorem IsClosest.tie {c : K} [LawfulScalar K] (h : Rooted s source st)
    (closest : st.IsClosest (fun j => isMatch j = true) target c)
    (way : st.wayTo? source st.labels.size target [] = some path)
    (isPath : s.IsPath source target path) (inner : [a, k, b] <:+: path)
    (fits : isMatch k = true) :
    ∃ d, st.label k = some d ∧ ¬ d < c ∧ ¬ c < d ∧ target < k := by
  have before := precedes_of_mem_way way k (inner.subset (by simp))
  obtain ⟨d, hd, le⟩ := h.label_of_precedes before closest.label
  refine ⟨d, hd, closest.least k d fits hd, le, ?_⟩
  by_contra above
  have lt : k < target := Nat.lt_of_le_of_ne (Nat.le_of_not_lt above) (isPath.ne_last inner)
  exact le (closest.lowest k d fits hd lt)

end Search

namespace Store

open Search

variable [Scalar K] {s : Store K}

theorem exists_closest_of_path [LawfulScalar K] {id : Json} {isMatch : Nat → Bool}
    {path : List Nat} (answer : s.pathToNearest id isMatch = .ok path) (nonempty : path ≠ []) :
    ∃ source st target c, s.spread id = .ok st ∧ Rooted s source st ∧
      st.IsClosest (fun j => isMatch j = true) target c ∧
      st.wayTo? source st.labels.size target [] = some path ∧ s.IsPath source target path := by
  cases resolved : s.resolve id with
  | error e =>
    simp only [pathToNearest, resolved, bind, Except.bind] at answer
    cases answer
  | ok source =>
  obtain ⟨rfl, hs⟩ := resolve_eq_ok_iff.1 resolved
  cases run : s.spread (.int source) with
  | error e =>
    simp only [pathToNearest, resolved, run, bind, Except.bind] at answer
    cases answer
  | ok st =>
    rw [pathToNearest_int hs run] at answer
    cases answer
    obtain ⟨_, ⟨⟩, -, rooted⟩ := rooted_of_spread run
    obtain ⟨empty, -⟩ | ⟨target, c, closest, way, isPath⟩ := rooted.path_cases isMatch
    · exact absurd empty nonempty
    · exact ⟨source, st, target, c, rfl, rooted, closest, way, isPath⟩

theorem pathToNearest_of_rounds {n u : Nat} (hu : u < s.size) {isMatch : Nat → Bool}
    {path : List Nat}
    (ended : (rounds s n (.start s.size u)).toOption.map
      (fun st => (st.queue, st.path u isMatch)) = some ([], path)) :
    s.pathToNearest (.int u) isMatch = .ok path := by
  obtain ⟨st, run, same⟩ := exists_of_rounds ended
  obtain ⟨queue, way⟩ := Prod.mk.inj same
  rw [pathToNearest_int hu ((spread_int hu).trans (run_of_rounds run queue)), way]

end Store

end WaypointMap
