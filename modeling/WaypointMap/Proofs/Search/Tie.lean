import WaypointMap.Proofs.Graph.Growth
import WaypointMap.Proofs.Search.Walk

/-!
# The path from a match

A start that matches has label zero, and so may other matches, the lowest of which then wins. A
label of zero comes from the start over links that cost nothing. So a start that matches is its
own answer, unless such links lead to a lower match. Even then it may be: a waypoint hands its
label on only once, perhaps before it is zero.
-/

namespace WaypointMap

open Relation (ReflTransGen)

variable {K : Type} {s : Store K} {source target bound i j : Nat} {st : Search K}
  {path : List Nat}

namespace Search

/-! ## The closest match -/

variable [Scalar K] {isMatch : Nat → Bool} {c : K}

/-- A match above the source is not closer than a source that matches. -/
theorem Rooted.le_source (h : Rooted s source st) (fits : isMatch source = true)
    (closest : st.IsClosest (fun j => isMatch j = true) target c) :
    target ≤ source ∧ ¬ 0.0 < c := by
  constructor
  · by_contra above
    have lt := closest.lowest source 0.0 fits h.source_label (Nat.lt_of_not_le above)
    exact h.nonneg target c closest.label lt
  · exact closest.least source 0.0 fits h.source_label

/-- A source that matches is the closest match exactly if no lower match has label zero. -/
theorem Rooted.eq_source_iff (h : Rooted s source st) (fits : isMatch source = true)
    (closest : st.IsClosest (fun j => isMatch j = true) target c) :
    target = source ↔ ∀ j < source, isMatch j = true → ∀ d, st.label j = some d → 0.0 < d := by
  obtain ⟨le, zero⟩ := h.le_source fits closest
  constructor
  · rintro rfl j hj fits' d hd
    cases h.source_label.symm.trans closest.label
    exact closest.lowest j d fits' hd hj
  · intro dear
    by_contra ne
    exact zero (dear target (Nat.lt_of_le_of_ne le ne) closest.holds c closest.label)

end Search

/-! ## Where a label of zero comes from -/

variable [Scalar K]

/-- Whether a step along a link costs nothing. -/
structure Store.Free (s : Store K) (i j : Nat) : Prop where
  linked : s.Linked i j
  isFinite : Scalar.isFinite (s.stepCost i j) = true
  notPositive : ¬ 0.0 < s.stepCost i j

namespace Search

/-- A rooted search whose labels are sums of costs and steps. The cost was the label of the
predecessor when the sum was offered. -/
structure Priced (s : Store K) (source : Nat) (st : Search K) : Prop
    extends Rooted s source st where
  sum : ∀ j p c, st.predecessor j = some p → st.label j = some c →
    ∃ d, ¬ d < 0.0 ∧ c = d + s.stepCost p j

section Priced

variable [LawfulScalar K]

theorem priced_start (hs : source < s.size) : Priced s source (.start s.size source) where
  toRooted := rooted_start hs
  sum := by
    intro j p c hp
    rw [predecessor_start] at hp
    cases hp

theorem Priced.improve (h : Priced s source st) (linked : s.Linked i j) (hj : j < s.size)
    {cost : K} (hi : st.label i = some cost)
    (better : improves (cost + s.stepCost i j) (st.label j) = true) :
    Priced s source (st.improve i j (cost + s.stepCost i j)) where
  toRooted := h.toRooted.improve linked hj hi (s.not_stepCost_lt_zero i j) better
  sum := by
    intro k p c hp hc
    rw [predecessor_improve (h.predecessors_size ▸ hj)] at hp
    rw [label_improve (h.labels_size ▸ hj)] at hc
    split at hp
    next same =>
      cases hp
      rw [if_pos same] at hc
      cases hc
      exact ⟨cost, h.nonneg i cost hi, same ▸ rfl⟩
    next other =>
      rw [if_neg other] at hc
      exact h.sum k p c hp hc

theorem Priced.run {st' : Search K} (h : Priced s source st) (run : Search.run s st = .ok st') :
    Priced s source st' :=
  run_of_improve (fun _ _ _ h => { h with })
    (fun _ _ _ _ linked hj hi better h => h.improve linked hj hi better) h run

/-- Whatever comes before a waypoint with label zero has label zero. -/
theorem Rooted.zero_of_precedes (h : Rooted s source st) (chain : ReflTransGen st.Precedes j i)
    {c : K} (hi : st.label i = some c) (zero : ¬ 0.0 < c) :
    ∃ d, st.label j = some d ∧ ¬ 0.0 < d := by
  obtain ⟨d, hd, le⟩ := h.label_of_precedes chain hi
  exact ⟨d, hd, LawfulScalar.not_lt_trans (h.isNaN hi) le zero⟩

end Priced

variable [LawfulZero K] {c : K}

/-- A label of zero was handed on along a link that costs nothing. -/
theorem Priced.free (h : Priced s source st) (hp : st.Precedes i j) (hc : st.label j = some c)
    (zero : ¬ 0.0 < c) : s.Free i j := by
  obtain ⟨-, -, -, linked⟩ := h.label_predecessor hp hc
  obtain ⟨d, nonneg, rfl⟩ := h.sum j i c hp hc
  have finite := h.isFinite j _ hc
  refine ⟨linked, (LawfulScalar.isFinite_of_add finite).2, fun positive => ?_⟩
  exact zero (LawfulZero.zero_lt_add nonneg positive (LawfulScalar.isNaN_of_isFinite finite))

theorem Priced.free_way (h : Priced s source st) (hc : st.label target = some c)
    (zero : ¬ 0.0 < c) (way : st.wayTo? source bound target [] = some path) :
    path.IsChain s.Free := by
  refine (isChain_of_wayTo? way).imp_of_mem_imp ?_
  intro i j _ hj precedes
  obtain ⟨d, hd, zero'⟩ := h.zero_of_precedes (precedes_of_mem_way way j hj) hc zero
  exact h.free precedes hd zero'

/-! ## Matches as starts -/

/-- What is known of the path from a source that matches. -/
structure Idles (s : Store K) (st : Search K) (isMatch : Nat → Bool) (source : Nat)
    (path : List Nat) : Prop where
  /-- It leads to a match that is not above the source. -/
  isPath : ∃ target ≤ source, isMatch target = true ∧ s.IsPath source target path
  free : path.IsChain s.Free
  alone_iff : path = [source] ↔
    ∀ j < source, isMatch j = true → ∀ c, st.label j = some c → 0.0 < c
  alone_of_dear : (∀ j < source, isMatch j = true → ¬ ReflTransGen s.Free source j) →
    path = [source]

theorem Priced.idles (h : Priced s source st) {isMatch : Nat → Bool}
    (fits : isMatch source = true) : Idles s st isMatch source (st.path source isMatch) := by
  rcases h.path_cases isMatch with ⟨-, unlabelled⟩ | ⟨target, c, closest, way, isPath⟩
  · cases h.source_label.symm.trans (unlabelled source fits)
  obtain ⟨le, zero⟩ := h.le_source fits closest
  have free := h.free_way closest.label zero way
  have alone : st.path source isMatch = [source] ↔ target = source := by
    constructor
    · intro single
      have last := isPath.last
      rw [single] at last
      exact (Option.some.inj last).symm
    · rintro rfl
      exact isPath.eq_singleton
  refine ⟨⟨target, le, closest.holds, isPath⟩, free, alone.trans (h.eq_source_iff fits closest),
    fun dear => alone.2 ?_⟩
  by_contra ne
  exact dear target (Nat.lt_of_le_of_ne le ne) closest.holds
    (Leads.reaches ⟨isPath.head, isPath.last, free⟩)

end Search

namespace Store

open Search

theorem exists_spread_of_rounds {n u : Nat} (hu : u < s.size)
    (ended : (rounds s n (.start s.size u)).toOption.map (·.queue) = some []) :
    ∃ st, s.spread (.int u) = .ok st := by
  obtain ⟨st, run, queue⟩ := exists_of_rounds ended
  exact ⟨st, (spread_int hu).trans (run_of_rounds run queue)⟩

theorem exists_priced_of_path [LawfulScalar K] {u : Nat} {isMatch : Nat → Bool}
    {path : List Nat} (answer : s.pathToNearest (.int u) isMatch = .ok path) :
    ∃ st, Priced s u st ∧ path = st.path u isMatch := by
  simp only [pathToNearest, bind, Except.bind] at answer
  split at answer
  · cases answer
  next i resolved =>
  obtain ⟨⟨⟩, hu⟩ := resolve_eq_ok_iff.1 resolved
  split at answer
  · cases answer
  next st run =>
  cases answer
  exact ⟨st, (priced_start hu).run ((spread_int hu).symm.trans run), rfl⟩

/-- From a start that matches, a search that is not refused takes only links that cost nothing,
to a match that is not above the start. It stays where it is exactly if every lower match that
has a label has a positive one, and so if no such links lead to a lower match. -/
theorem path_from_match [LawfulZero K] (s : Store K) {u : Nat} {st : Search K}
    (h : s.spread (.int u) = .ok st) :
    (s.isFrontier u = true → ∃ path, s.pathToFrontier (.int u) = .ok path ∧
      Idles s st s.isFrontier u path) ∧
    (s.isObject u = true → ∃ path, s.pathToObject (.int u) = .ok path ∧
      Idles s st s.isObject u path) := by
  obtain ⟨_, ⟨⟩, hu, -⟩ := rooted_of_spread h
  have priced := (priced_start hu).run ((spread_int hu).symm.trans h)
  exact ⟨fun fits => ⟨_, pathToNearest_int hu h s.isFrontier, priced.idles fits⟩,
    fun fits => ⟨_, pathToNearest_int hu h s.isObject, priced.idles fits⟩⟩

/-- A spot, an object in the same place, and another spot. -/
def lobby : Store Float :=
  (Request.run (.empty .default)
    [.spot 0.0 .null, .sighting 0.0 .north, .spot 1.0 (.int 0)]).store

/-- The second spot is a step away from the first one; the object is the only one. -/
theorem path_from_match_lobby :
    lobby.pathToFrontier (.int 2) = .ok [2] ∧ lobby.pathToObject (.int 1) = .ok [1] := by
  have size : lobby.size = 3 := by decide +kernel
  have ended : ∀ u < 3, (rounds lobby 9 (.start lobby.size u)).toOption.map (·.queue) =
      some [] := by
    decide +kernel
  have dear : ∀ j ∈ neighborsAt lobby 2, 0.0 < lobby.stepCost 2 j := by decide +kernel
  obtain ⟨st, spread⟩ := exists_spread_of_rounds (u := 2) (by omega) (ended 2 (by decide))
  obtain ⟨st', spread'⟩ := exists_spread_of_rounds (u := 1) (by omega) (ended 1 (by decide))
  obtain ⟨path, answer, idles⟩ := (path_from_match lobby spread).1 (by decide +kernel)
  obtain ⟨path', answer', idles'⟩ := (path_from_match lobby spread').2 (by decide +kernel)
  have alone : path = [2] := by
    refine idles.alone_of_dear fun j hj _ reached => ?_
    obtain rfl | ⟨k, free, -⟩ := reached.cases_head
    · exact absurd hj (Nat.lt_irrefl 2)
    · exact free.notPositive (dear k (mem_neighborsAt_iff.2 free.linked))
  have alone' : path' = [1] := by
    refine idles'.alone_iff.2 fun j hj fits => ?_
    obtain rfl := Nat.lt_one_iff.1 hj
    exact absurd fits (by decide +kernel)
  exact ⟨alone ▸ answer, alone' ▸ answer'⟩

/-- A spot and two objects in one place. The second object is seen from the first. -/
def pile : List (Request Float) :=
  [.spot 0.0 .null, .sighting 0.0 .north,
    .placeObject (.int 1) (.ok 0.0) (.ok 0.0) (.ok .east)]

/-- Two spots in one place, which count as two under a threshold whose square is zero. -/
def twins : List (Request Float) := [.spot 0.0 .null, .spot 0.0 (.int 0)]

/-- From an object and from a frontier, a path may lead away to a lower one in the same place. -/
theorem path_from_match_coincident :
    let s := (Request.run (.empty .default) pile).store
    let t := (Request.run (.empty ⟨1e-200, false⟩) twins).store
    (∀ r ∈ pile, r.isFinitePlacement = true) ∧ s.isObject 2 = true ∧
      s.pathToObject (.int 2) = .ok [2, 1] ∧
      (∀ r ∈ twins, r.isFinitePlacement = true) ∧ t.isFrontier 1 = true ∧
      t.pathToFrontier (.int 1) = .ok [1, 0] := by
  intro s t
  have object : s.pathToObject (.int 2) = .ok [2, 1] :=
    pathToNearest_of_rounds (n := 9) (by decide +kernel) (by decide +kernel)
  have frontier : t.pathToFrontier (.int 1) = .ok [1, 0] :=
    pathToNearest_of_rounds (n := 9) (by decide +kernel) (by decide +kernel)
  exact ⟨by decide +kernel, by decide +kernel, object, by decide +kernel, by decide +kernel,
    frontier⟩

end Store

end WaypointMap
