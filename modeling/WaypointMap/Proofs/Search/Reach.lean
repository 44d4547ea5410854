import WaypointMap.Proofs.Checked
import WaypointMap.Proofs.Search.ClosedForm

/-!
# What a search reaches

Where no sum leaves the finite range, a search labels every waypoint that can be reached along
links, and no other. Links go both ways, so one of two waypoints is reached from the other
exactly if the other is reached from it.
-/

namespace WaypointMap

open Relation (ReflTransGen)

variable {K : Type}

namespace Store

variable {s : Store K}

/-- Whether a waypoint can be reached from another along links. -/
def Reaches (s : Store K) : Nat → Nat → Prop := ReflTransGen s.Linked

theorem WellFormed.linked_symm (hs : s.WellFormed) {i j : Nat} (linked : s.Linked i j) :
    s.Linked j i := by
  obtain ⟨h, hl⟩ := linked
  exact ⟨h.opposite, hs.answered hl⟩

theorem WellFormed.reaches_symm (hs : s.WellFormed) {u v : Nat} (reached : s.Reaches u v) :
    s.Reaches v u := by
  induction reached with
  | refl => exact .refl
  | tail _ linked ih => exact .head (hs.linked_symm linked) ih

end Store

namespace Search

variable [Scalar K] {s : Store K} {source : Nat} {st : Search K}

/-- Whether the label of a waypoint is a finite cost. -/
def HasFiniteLabel (st : Search K) (j : Nat) : Prop :=
  ∃ c, st.label j = some c ∧ Scalar.isFinite c = true

theorem Rooted.hasFiniteLabel_iff (h : Rooted s source st) {j : Nat} :
    st.HasFiniteLabel j ↔ st.label j ≠ none := by
  rw [Option.ne_none_iff_exists']
  exact ⟨fun ⟨c, hc, _⟩ => ⟨c, hc⟩, fun ⟨c, hc⟩ => ⟨c, hc, h.isFinite j c hc⟩⟩

/-- A label comes along links from the source. -/
theorem Rooted.reaches (h : Rooted s source st) {j : Nat} (labelled : st.label j ≠ none) :
    s.Reaches source j := by
  induction j using h.acyclic.induction with
  | h j ih =>
    obtain ⟨c, hc⟩ := Option.ne_none_iff_exists'.1 labelled
    by_cases root : j = source
    · rw [root]
      exact .refl
    · obtain ⟨p, d, hp, hd, -, linked⟩ := h.preceded j c hc root
      exact (ih p hp (by simp [hd])).tail linked

variable [LawfulScalar K]

theorem Rooted.path_cases (h : Rooted s source st) (isMatch : Nat → Bool) :
    st.path source isMatch = [] ∧ (∀ j, isMatch j = true → st.label j = none) ∨
    ∃ target c, st.IsClosest (fun j => isMatch j = true) target c ∧
      st.wayTo? source st.labels.size target [] = some (st.path source isMatch) ∧
      s.IsPath source target (st.path source isMatch) := by
  unfold path
  rcases closest?_eq h isMatch with ⟨target, c, found, closest⟩ | ⟨found, unlabelled⟩
  · obtain ⟨path, isPath, back⟩ := h.wayTo?_size closest.label
    simp only [found, Option.getD_some, back]
    exact .inr ⟨target, c, closest, back, isPath⟩
  · simp only [found]
    exact .inl ⟨trivial, unlabelled⟩

theorem Rooted.path_eq_nil_iff (h : Rooted s source st) (isMatch : Nat → Bool) :
    st.path source isMatch = [] ↔ ∀ j, isMatch j = true → st.label j = none := by
  rcases h.path_cases isMatch with ⟨empty, unlabelled⟩ | ⟨target, c, closest, -, isPath⟩
  · exact ⟨fun _ => unlabelled, fun _ => empty⟩
  · refine ⟨fun empty => ?_, fun none => ?_⟩
    · rw [empty] at isPath
      cases isPath.head
    · cases (none target closest.holds).symm.trans closest.label

/-- If labels reach as far as links do, there is a path unless no match can be reached. -/
theorem Rooted.path_eq_nil_iff_of_reaches (h : Rooted s source st)
    (labels : ∀ j, st.label j ≠ none ↔ s.Reaches source j) (isMatch : Nat → Bool) :
    st.path source isMatch = [] ↔ ∀ j, s.Reaches source j → isMatch j = false := by
  rw [h.path_eq_nil_iff]
  constructor
  · intro unlabelled j reached
    by_contra fits
    exact (labels j).2 reached (unlabelled j (by simpa using fits))
  · intro none j fits
    by_contra labelled
    cases fits.symm.trans (none j ((labels j).1 labelled))

/-! ## Completeness -/

variable {e : Nat → K} {order : List Nat} {start : Nat}

omit [LawfulScalar K] in
/-- At the end of a search, whatever is linked to a discovered waypoint is discovered. -/
theorem Paused.closed (h : Paused s start e order order st) {i j : Nat} (hi : i ∈ order)
    (linked : s.Linked i j) : j ∈ order := by
  by_contra unknown
  exact (h.unknown j unknown).2 i ⟨hi, linked⟩

omit [LawfulScalar K] in
theorem Paused.label_ne_none_iff (h : Paused s start e order order st) {j : Nat} :
    st.label j ≠ none ↔ s.Reaches start j := by
  refine ⟨h.rooted.reaches, fun reached => ?_⟩
  rw [← h.mem_known]
  induction reached with
  | refl => exact List.mem_of_getElem? h.head
  | tail _ linked ih => exact h.closed ih linked

end Search

namespace Store

open Search

variable [Scalar K] {s : Store K} {u : Nat}

/-- Whether every sum that a search from a waypoint computes is finite. -/
def SumsFinite (s : Store K) (start : Nat) : Prop :=
  ∀ n i c, (i, some c) ∈ expansions s n (.start s.size start) →
    ∀ j, s.Linked i j → Scalar.isFinite (c + s.stepCost i j) = true

theorem exists_of_rounds {α : Type} {f : Search K → α} {n : Nat} {st : Search K} {a : α}
    (h : (rounds s n st).toOption.map f = some a) : ∃ st', rounds s n st = .ok st' ∧ f st' = a := by
  obtain ⟨st', ended, same⟩ := Option.map_eq_some_iff.1 h
  exact ⟨st', Checked.eq_ok_of_toOption ended, same⟩

theorem sumsFinite_of_rounds {n : Nat} {st : Search K}
    (h : rounds s n (.start s.size u) = .ok st) (ended : st.queue = [])
    (finite : ∀ x ∈ expansions s n (.start s.size u), ∀ j ∈ neighborsAt s x.1, ∀ c ∈ x.2,
      Scalar.isFinite (c + s.stepCost x.1 j) = true) : s.SumsFinite u := by
  intro m i c hc j linked
  exact finite (i, some c) (expansions_subset h ended m hc) j (mem_neighborsAt_iff.2 linked) c rfl

theorem spread_int (hu : u < s.size) :
    s.spread (.int u) = Search.run s (.start s.size u) := by
  have resolved := resolve_eq_ok_iff.2 ⟨rfl, hu⟩
  simp only [spread, resolved, bind, Except.bind]

theorem pathToNearest_int (hu : u < s.size) {st : Search K} (h : s.spread (.int u) = .ok st)
    (isMatch : Nat → Bool) :
    s.pathToNearest (.int u) isMatch = .ok (st.path u isMatch) := by
  have resolved := resolve_eq_ok_iff.2 ⟨rfl, hu⟩
  simp only [pathToNearest, resolved, h, bind, Except.bind]
  rfl

variable [LawfulScalar K]

/-- If every sum that a search computes is finite, it ends when every waypoint that it knows has
made its offers. -/
theorem exists_paused (hs : s.WellFormed) (hu : u < s.size) (finite : s.SumsFinite u) :
    ∃ e order st, s.spread (.int u) = .ok st ∧ Paused s u e order order st := by
  obtain ⟨e, order, st, n, run, -, -, -, -, final⟩ :=
    (paused_start hu fun _ => 0.0).run hs.inRange finite
  rw [List.nil_append] at final
  exact ⟨e, order, st, (spread_int hu).trans run, final⟩

theorem exists_spread (hs : s.WellFormed) (hu : u < s.size) (finite : s.SumsFinite u) :
    ∃ st, s.spread (.int u) = .ok st ∧ Rooted s u st ∧
      ∀ j, st.HasFiniteLabel j ↔ s.Reaches u j := by
  obtain ⟨e, order, st, spread, final⟩ := exists_paused hs hu finite
  refine ⟨st, spread, final.rooted, fun j => ?_⟩
  rw [final.rooted.hasFiniteLabel_iff, final.label_ne_none_iff]

/-- If every sum that a search computes is finite, the search misses nothing: the waypoints with
a finite label are those that can be reached along links, and the path to the nearest match is
empty only if no match can be reached. If the same holds of the search from another waypoint,
each of the two searches labels the start of the other, or none does. -/
theorem spread_reaches (hs : s.Reachable) (hu : u < s.size) (finite : s.SumsFinite u) :
    ∃ st, s.spread (.int u) = .ok st ∧
      (∀ j, st.HasFiniteLabel j ↔ s.Reaches u j) ∧
      (∀ isMatch : Nat → Bool, ∃ path, s.pathToNearest (.int u) isMatch = .ok path ∧
        (path = [] ↔ ∀ j, s.Reaches u j → isMatch j = false)) ∧
      ∀ v < s.size, s.SumsFinite v →
        ∃ st', s.spread (.int v) = .ok st' ∧ (st.HasFiniteLabel v ↔ st'.HasFiniteLabel u) := by
  obtain ⟨st, spread, rooted, labels⟩ := exists_spread hs.wellFormed hu finite
  refine ⟨st, spread, labels, fun isMatch => ?_, fun v hv finite' => ?_⟩
  · refine ⟨_, pathToNearest_int hu spread isMatch, ?_⟩
    rw [rooted.path_eq_nil_iff]
    constructor
    · intro unlabelled j reached
      rw [← labels, rooted.hasFiniteLabel_iff] at reached
      by_contra fits
      exact reached (unlabelled j (by simpa using fits))
    · intro none j fits
      by_contra labelled
      have reached := (labels j).1 (rooted.hasFiniteLabel_iff.2 labelled)
      cases fits.symm.trans (none j reached)
  · obtain ⟨st', spread', -, labels'⟩ := exists_spread hs.wellFormed hv finite'
    refine ⟨st', spread', ?_⟩
    rw [labels, labels']
    exact ⟨hs.wellFormed.reaches_symm, hs.wellFormed.reaches_symm⟩

/-- Two waypoints that are linked, and two others. -/
def islands : Store Float :=
  (Request.run (.empty .default)
    [.create (.ok 0.0) (.ok 0.0) (.ok (.replicate true)) false,
      .create (.ok 1.0) (.ok 0.0) (.ok (.replicate true)) false,
      .create (.ok 3.0) (.ok 0.0) (.ok (.replicate true)) false,
      .create (.ok 4.0) (.ok 0.0) (.ok (.replicate false)) false,
      .connect (.int 0) (.ok .east) (.int 1), .connect (.int 2) (.ok .east) (.int 3)]).store

theorem sumsFinite_islands {u : Nat} (hu : u < 2) : islands.SumsFinite u := by
  have ended : ∀ u < 2, (rounds islands 4 (.start islands.size u)).toOption.map (·.queue) =
      some [] := by
    decide +kernel
  have finite : ∀ u < 2, ∀ x ∈ expansions islands 4 (.start islands.size u),
      ∀ j ∈ neighborsAt islands x.1, ∀ c ∈ x.2,
        Scalar.isFinite (c + islands.stepCost x.1 j) = true := by
    decide +kernel
  obtain ⟨st, run, queue⟩ := exists_of_rounds (ended u hu)
  exact sumsFinite_of_rounds run queue (finite u hu)

theorem lt_two_of_reaches_islands {j : Nat} (reached : islands.Reaches 0 j) : j < 2 := by
  have closed : ∀ i < 2, ∀ j ∈ neighborsAt islands i, j < 2 := by decide
  induction reached with
  | refl => decide
  | tail _ linked ih => exact closed _ ih _ (mem_neighborsAt_iff.2 linked)

/-- The only frontier is on the other island, so there is no path to it. -/
theorem spread_reaches_islands :
    islands.Reachable ∧ islands.SumsFinite 0 ∧ islands.SumsFinite 1 ∧
      ∃ st st', islands.spread (.int 0) = .ok st ∧ islands.spread (.int 1) = .ok st' ∧
        st.HasFiniteLabel 1 ∧ st'.HasFiniteLabel 0 ∧ ¬ st.HasFiniteLabel 3 ∧
        islands.pathToFrontier (.int 0) = .ok [] := by
  have reachable : islands.Reachable := ⟨_, _, rfl⟩
  have size : islands.size = 4 := rfl
  have linked : islands.Linked 0 1 := ⟨.east, by decide⟩
  have finite : islands.SumsFinite 0 := sumsFinite_islands (by decide)
  have finite' : islands.SumsFinite 1 := sumsFinite_islands (by decide)
  obtain ⟨st, spread, labels, paths, both⟩ := spread_reaches reachable (by omega) finite
  obtain ⟨st', spread', same⟩ := both 1 (by omega) finite'
  have labelled : st.HasFiniteLabel 1 := (labels 1).2 (.single linked)
  obtain ⟨path, answer, empty⟩ := paths islands.isFrontier
  have closed : ∀ j < 2, islands.isFrontier j = false := by decide
  obtain rfl := empty.2 fun j reached => closed j (lt_two_of_reaches_islands reached)
  refine ⟨reachable, finite, finite', st, st', spread, spread', labelled, same.1 labelled, ?_,
    answer⟩
  intro other
  exact absurd (lt_two_of_reaches_islands ((labels 3).1 other)) (by decide)

end Store

end WaypointMap
