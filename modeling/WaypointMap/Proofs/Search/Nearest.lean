import WaypointMap.Proofs.Search.Tree
import WaypointMap.Search.Path
import Mathlib.Data.List.Chain
import Mathlib.Data.List.Perm.Subperm

/-!
# Paths to the nearest match

The scan of the labels finds the match of the least label, and the lowest of several. The way
read back from it is a path along links, from the source and without repetition, so the bound
on its length is never met.
-/

namespace WaypointMap

open Relation

/-- Whether waypoints form a path along links that repeats none. -/
structure Store.IsPath {K : Type} (s : Store K) (source target : Nat) (path : List Nat) :
    Prop where
  head : path.head? = some source
  last : path.getLast? = some target
  nodup : path.Nodup
  linked : path.IsChain s.Linked

namespace Search

variable {K : Type} [Scalar K] {s : Store K} {source : Nat} {st : Search K}

/-- Whether `target` is the lowest of the matches of least label, and `c` its label. -/
structure IsClosest (st : Search K) (fits : Nat → Prop) (target : Nat) (c : K) : Prop where
  holds : fits target
  label : st.label target = some c
  least : ∀ j d, fits j → st.label j = some d → ¬ d < c
  lowest : ∀ j d, fits j → st.label j = some d → j < target → c < d

/-! ## The scan -/

/-- Whether a scan has found the closest match, or that no match has a label. -/
def Scanned (st : Search K) (fits : Nat → Prop) : Option (Nat × K) → Prop
  | none => ∀ j, fits j → st.label j = none
  | some (target, c) => st.IsClosest fits target c

theorem Scanned.next [LawfulScalar K] (h : Rooted s source st) {isMatch : Nat → Bool} {i : Nat}
    {best : Option (Nat × K)} (hb : Scanned st (fun j => j < i ∧ isMatch j = true) best)
    {c : K} (hc : st.label i = some c) :
    Scanned st (fun j => j < i + 1 ∧ isMatch j = true)
      (if isCloser c best && isMatch i then some (i, c) else best) := by
  have irrefl : ¬ c < c := fun lt => LawfulScalar.lt_asymm lt lt
  cases hm : isMatch i with
  | false =>
    rw [Bool.and_false, if_neg Bool.false_ne_true]
    have earlier : ∀ j, j < i + 1 ∧ isMatch j = true → j < i ∧ isMatch j = true := by
      rintro j ⟨hj, hj'⟩
      rcases Nat.lt_succ_iff_lt_or_eq.1 hj with lt | rfl
      · exact ⟨lt, hj'⟩
      · cases hm.symm.trans hj'
    cases best with
    | none => exact fun j hj => hb j (earlier j hj)
    | some best =>
      exact ⟨⟨Nat.lt_succ_of_lt hb.holds.1, hb.holds.2⟩, hb.label,
        fun j d hj => hb.least j d (earlier j hj), fun j d hj => hb.lowest j d (earlier j hj)⟩
  | true =>
    rw [Bool.and_true]
    cases best with
    | none =>
      rw [isCloser, if_pos rfl]
      have only : ∀ j d, j < i + 1 ∧ isMatch j = true → st.label j = some d → j = i := by
        rintro j d ⟨hj, hj'⟩ hd
        rcases Nat.lt_succ_iff_lt_or_eq.1 hj with lt | eq
        · cases (hb j ⟨lt, hj'⟩).symm.trans hd
        · exact eq
      refine ⟨⟨Nat.lt_succ_self i, hm⟩, hc, ?_, ?_⟩
      · intro j d hj hd
        obtain rfl := only j d hj hd
        cases hc.symm.trans hd
        exact irrefl
      · intro j d hj hd lt
        exact absurd (only j d hj hd) lt.ne
    | some best =>
      obtain ⟨target, b⟩ := best
      rw [isCloser]
      split
      next closer =>
        have closer : c < b := of_decide_eq_true closer
        refine ⟨⟨Nat.lt_succ_self i, hm⟩, hc, ?_, ?_⟩
        · rintro j d ⟨hj, hj'⟩ hd lt
          rcases Nat.lt_succ_iff_lt_or_eq.1 hj with below | rfl
          · exact hb.least j d ⟨below, hj'⟩ hd (LawfulScalar.lt_trans lt closer)
          · cases hc.symm.trans hd
            exact irrefl lt
        · rintro j d ⟨-, hj'⟩ hd lt
          rcases LawfulScalar.lt_or_lt closer (h.isNaN hd) with above | below
          · exact above
          · exact absurd below (hb.least j d ⟨lt, hj'⟩ hd)
      next farther =>
        have farther : ¬ c < b := fun lt => farther (decide_eq_true lt)
        refine ⟨⟨Nat.lt_succ_of_lt hb.holds.1, hb.holds.2⟩, hb.label, ?_, ?_⟩
        · rintro j d ⟨hj, hj'⟩ hd
          rcases Nat.lt_succ_iff_lt_or_eq.1 hj with below | rfl
          · exact hb.least j d ⟨below, hj'⟩ hd
          · cases hc.symm.trans hd
            exact farther
        · rintro j d ⟨-, hj'⟩ hd lt
          exact hb.lowest j d ⟨lt.trans hb.holds.1, hj'⟩ hd lt

theorem Scanned.skip {isMatch : Nat → Bool} {i : Nat} {best : Option (Nat × K)}
    (hb : Scanned st (fun j => j < i ∧ isMatch j = true) best) (unlabelled : st.label i = none) :
    Scanned st (fun j => j < i + 1 ∧ isMatch j = true) best := by
  have earlier : ∀ j d, j < i + 1 ∧ isMatch j = true → st.label j = some d →
      j < i ∧ isMatch j = true := by
    rintro j d ⟨hj, hj'⟩ hd
    rcases Nat.lt_succ_iff_lt_or_eq.1 hj with lt | rfl
    · exact ⟨lt, hj'⟩
    · cases unlabelled.symm.trans hd
  cases best with
  | none =>
    intro j hj
    cases hd : st.label j with
    | none => rfl
    | some d => exact (hb j (earlier j d hj hd)).symm.trans hd |>.symm
  | some best =>
    exact ⟨⟨Nat.lt_succ_of_lt hb.holds.1, hb.holds.2⟩, hb.label,
      fun j d hj hd => hb.least j d (earlier j d hj hd) hd,
      fun j d hj hd => hb.lowest j d (earlier j d hj hd) hd⟩

omit [Scalar K] in
theorem label_of_drop {i : Nat} {l : Option K} {rest : List (Option K)}
    (h : st.labels.toList.drop i = l :: rest) :
    st.label i = l ∧ st.labels.toList.drop (i + 1) = rest := by
  have here : st.labels[i]? = some l := by
    rw [← Array.getElem?_toList, ← Nat.add_zero i, ← List.getElem?_drop, h, List.getElem?_cons_zero]
  refine ⟨?_, ?_⟩
  · rw [label, Array.getD_eq_getD_getElem?, here, Option.getD_some]
  · rw [← List.tail_drop, h, List.tail_cons]

variable [LawfulScalar K]

/-- A scan to the end finds the closest of all matches. -/
theorem scanned_closestFrom (h : Rooted s source st) (isMatch : Nat → Bool)
    {rest : List (Option K)} {i : Nat} {best : Option (Nat × K)}
    (hrest : st.labels.toList.drop i = rest)
    (hb : Scanned st (fun j => j < i ∧ isMatch j = true) best) :
    Scanned st (fun j => isMatch j = true) (closestFrom isMatch best i rest) := by
  induction rest generalizing i best with
  | nil =>
    have all : ∀ j d, st.label j = some d → j < i := by
      intro j d hd
      have := List.drop_eq_nil_iff.1 hrest
      exact (lt_size_of_label hd).trans_le this
    cases best with
    | none =>
      intro j hj
      cases hd : st.label j with
      | none => rfl
      | some d => exact (hb j ⟨all j d hd, hj⟩).symm.trans hd |>.symm
    | some best =>
      exact ⟨hb.holds.2, hb.label, fun j d hj hd => hb.least j d ⟨all j d hd, hj⟩ hd,
        fun j d hj hd => hb.lowest j d ⟨all j d hd, hj⟩ hd⟩
  | cons l rest ih =>
    obtain ⟨here, after⟩ := label_of_drop hrest
    cases l with
    | none => exact ih after (hb.skip here)
    | some c => exact ih after (hb.next h here)

theorem closest?_eq (h : Rooted s source st) (isMatch : Nat → Bool) :
    (∃ target c, st.closest? isMatch = some target ∧
      st.IsClosest (fun j => isMatch j = true) target c) ∨
    st.closest? isMatch = none ∧ ∀ j, isMatch j = true → st.label j = none := by
  have scanned : Scanned st (fun j => isMatch j = true)
      (closestFrom isMatch none 0 st.labels.toList) :=
    scanned_closestFrom h isMatch List.drop_zero fun j hj => absurd hj.1 (Nat.not_lt_zero j)
  unfold closest?
  cases hbest : closestFrom isMatch none 0 st.labels.toList with
  | none =>
    rw [hbest] at scanned
    exact .inr ⟨rfl, scanned⟩
  | some best =>
    rw [hbest] at scanned
    exact .inl ⟨best.1, best.2, rfl, scanned⟩

/-! ## The way back -/

theorem length_le_of_nodup {l : List Nat} {n : Nat} (nodup : l.Nodup) (below : ∀ i ∈ l, i < n) :
    l.length ≤ n := by
  have subperm : l.Subperm (List.range n) :=
    nodup.subperm fun i hi => List.mem_range.2 (below i hi)
  simpa using subperm.length_le

namespace Rooted

omit [LawfulScalar K] in
/-- From a labelled waypoint, the way back leads to the source. -/
theorem exists_wayTo? (h : Rooted s source st) {target : Nat} {c : K}
    (hc : st.label target = some c) :
    ∃ path, s.IsPath source target path ∧
      (∀ i ∈ path, ReflTransGen st.Precedes i target) ∧
      ∀ bound later, path.length ≤ bound + 1 →
        st.wayTo? source bound target later = some (path ++ later) := by
  induction target using h.acyclic.induction generalizing c with
  | h target ih =>
    by_cases here : target = source
    · subst here
      refine ⟨[target], ⟨rfl, rfl, by simp, .singleton target⟩, ?_, ?_⟩
      · intro i hi
        obtain rfl := List.mem_singleton.1 hi
        exact .refl
      · intro bound later _
        cases bound <;> simp [wayTo?]
    · obtain ⟨p, d, hp, hd, -, linked⟩ := h.preceded target c hc here
      obtain ⟨path, isPath, ancestors, back⟩ := ih p hp hd
      have fresh : target ∉ path := by
        intro again
        have cycle : TransGen st.Precedes target target :=
          TransGen.tail' (ancestors target again) hp
        exact h.acyclic.transGen.asymmetric _ _ cycle cycle
      refine ⟨path ++ [target], ⟨?_, ?_, ?_, ?_⟩, ?_, ?_⟩
      · rw [List.head?_append, isPath.head]
        rfl
      · exact List.getLast?_concat ..
      · rw [List.nodup_append]
        refine ⟨isPath.nodup, by simp, ?_⟩
        rintro i hi j hj rfl
        exact fresh (List.mem_singleton.1 hj ▸ hi)
      · rw [List.isChain_append]
        refine ⟨isPath.linked, .singleton target, ?_⟩
        intro i hi j hj
        rw [isPath.last] at hi
        cases hi
        cases hj
        exact linked
      · intro i hi
        rcases List.mem_append.1 hi with hi | hi
        · exact (ancestors i hi).tail hp
        · obtain rfl := List.mem_singleton.1 hi
          exact .refl
      · intro bound later enough
        have nonempty : 0 < path.length := by
          rw [List.length_pos_iff]
          rintro rfl
          cases isPath.head
        rw [List.length_append, List.length_singleton] at enough
        obtain ⟨bound, rfl⟩ := Nat.exists_eq_add_of_lt (show 0 < bound by omega)
        rw [Nat.zero_add, wayTo?, if_neg here]
        simp only [show st.predecessor target = some p from hp]
        rw [back bound (target :: later) (by omega), List.append_assoc]
        rfl

/-- The bound of the reading is not met: no path is longer than the store. -/
theorem wayTo?_size (h : Rooted s source st) {target : Nat} {c : K}
    (hc : st.label target = some c) :
    ∃ path, s.IsPath source target path ∧
      st.wayTo? source st.labels.size target [] = some path := by
  obtain ⟨path, isPath, ancestors, back⟩ := h.exists_wayTo? hc
  refine ⟨path, isPath, ?_⟩
  have short : path.length ≤ st.labels.size := by
    apply length_le_of_nodup isPath.nodup
    intro i hi
    obtain ⟨d, hd, -⟩ := h.label_of_precedes (ancestors i hi) hc
    exact lt_size_of_label hd
  rw [back st.labels.size [] (by omega), List.append_nil]

end Rooted

end Search

namespace Store

open Search

variable {K : Type} [Scalar K] [LawfulScalar K]

/-- Whenever labels spread, the search ends with an answer. Every label is a finite cost. The
answer is empty if no match has a label; otherwise no predecessor is missing on the way back
from the closest match, which is a path along links from the source. -/
theorem pathToNearest_isPath (s : Store K) (id : Json) (isMatch : Nat → Bool) {st : Search K}
    (h : s.spread id = .ok st) :
    ∃ (source : Nat) (path : List Nat), id = .int source ∧ source < s.size ∧
      (∀ j c, st.label j = some c → Scalar.isFinite c = true) ∧
      s.pathToNearest id isMatch = .ok path ∧
      (path = [] ↔ ∀ j, isMatch j = true → st.label j = none) ∧
      (path ≠ [] → ∃ target c, st.IsClosest (fun j => isMatch j = true) target c ∧
        st.wayTo? source st.labels.size target [] = some path ∧
        s.IsPath source target path) := by
  obtain ⟨source, rfl, hs, rooted⟩ := rooted_of_spread h
  have answer : s.pathToNearest (.int source) isMatch = .ok (st.path source isMatch) := by
    have resolved := resolve_eq_ok_iff.2 ⟨rfl, hs⟩
    simp only [pathToNearest, resolved, h, bind, Except.bind]
    rfl
  refine ⟨source, st.path source isMatch, rfl, hs, rooted.isFinite, answer, ?_⟩
  unfold Search.path
  rcases closest?_eq rooted isMatch with ⟨target, c, found, closest⟩ | ⟨found, unlabelled⟩
  · obtain ⟨path, isPath, back⟩ := rooted.wayTo?_size closest.label
    have nonempty : path ≠ [] := by
      rintro rfl
      cases isPath.head
    simp only [found, Option.getD_some, back]
    refine ⟨⟨fun nil => absurd nil nonempty, fun none => ?_⟩,
      fun _ => ⟨target, c, closest, back, isPath⟩⟩
    cases (none target closest.holds).symm.trans closest.label
  · rw [found]
    exact ⟨⟨fun _ => unlabelled, fun _ => rfl⟩, fun nonempty => absurd rfl nonempty⟩

/-- Two waypoints with objects; the coordinates of one of them are no numbers. -/
def crossing : Store Float :=
  ⟨#[⟨0, 0.0, 0.0, ⟨.leadsTo 1, .leadsTo 3, .unknown, .blocked⟩, false⟩,
    ⟨1, 0.0, 1.0, ⟨.unknown, .leadsTo 2, .leadsTo 0, .blocked⟩, false⟩,
    ⟨2, 1.0, 1.0, ⟨.unknown, .blocked, .unknown, .leadsTo 1⟩, true⟩,
    ⟨3, 0.0 / 0.0, 0.0, ⟨.unknown, .blocked, .blocked, .leadsTo 0⟩, true⟩]⟩

theorem spread_crossing :
    ∃ st, crossing.spread (.int 0) = .ok st ∧ st.labels = #[some 0.0, some 1.0, some 2.0, none] := by
  have ended : ((rounds crossing 9 (.start 4 0)).toOption.map fun st => (st.queue, st.labels)) =
      some ([], #[some 0.0, some 1.0, some 2.0, none]) := by
    decide +kernel
  cases hr : rounds crossing 9 (.start 4 0) with
  | error e =>
    rw [hr] at ended
    cases ended
  | ok st =>
    rw [hr] at ended
    simp only [Except.toOption, Option.map_some, Option.some.injEq, Prod.mk.injEq] at ended
    exact ⟨st, run_of_rounds hr ended.1, ended.2⟩

/-- The object that is nowhere has no label; the path leads to the other one. -/
theorem pathToNearest_isPath_crossing :
    ∃ st path, crossing.spread (.int 0) = .ok st ∧
      crossing.pathToNearest (.int 0) crossing.isObject = .ok path ∧
      st.wayTo? 0 4 2 [] = some path ∧ crossing.IsPath 0 2 path := by
  obtain ⟨st, spread, labels⟩ := spread_crossing
  obtain ⟨source, path, id, -, -, answer, empty, found⟩ :=
    pathToNearest_isPath crossing (.int 0) crossing.isObject spread
  have nonempty : path ≠ [] := by
    intro nil
    have unlabelled := empty.1 nil 2 rfl
    rw [label, labels] at unlabelled
    cases unlabelled
  obtain ⟨target, c, closest, back, isPath⟩ := found nonempty
  obtain rfl : source = 0 := by
    cases id
    rfl
  have reached := closest.label
  rw [label, labels] at reached
  obtain rfl : target = 2 := by
    have holds := closest.holds
    rcases target with _ | _ | _ | _ | target
    · cases holds
    · cases holds
    · rfl
    · cases reached
    · cases holds
  rw [labels] at back
  exact ⟨st, path, spread, answer, back, isPath⟩

end Store

end WaypointMap
