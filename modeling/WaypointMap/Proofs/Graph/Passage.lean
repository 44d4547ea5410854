import WaypointMap.Proofs.Graph.Progress
import WaypointMap.Proofs.Search.Passage

/-!
# Objects on a path

A search follows every link, and an object is linked with each waypoint that it is reported
from. So a path may lead past an object: from a waypoint that one report linked with it to a
waypoint that another report linked with it. An object that no report has linked again ends
every path that leads to it.
-/

namespace WaypointMap

variable {K : Type}

/-! ## What a placement links -/

namespace Store

variable {s : Store K} {a b : Nat}

theorem linked_push {x y : K} {flags : Compass Bool} {hasObject : Bool}
    (linked : (s.push x y flags hasObject).Linked a b) : s.Linked a b := by
  obtain ⟨h, hl⟩ := linked
  rw [link_push] at hl
  split at hl
  · cases hf : flags.get h <;> simp [hf, Link.ofFlag] at hl
  · exact ⟨h, hl⟩

theorem linked_joined {i j : Nat} (hi : i < s.size) (hj : j < s.size) {h : Heading}
    (linked : (s.joined i h j).Linked a b) :
    s.Linked a b ∨ a = i ∧ b = j ∨ a = j ∧ b = i := by
  obtain ⟨k, hl⟩ := linked
  rw [link_joined hi hj] at hl
  split at hl
  · next far =>
    cases hl
    exact .inr (.inr ⟨far.1, rfl⟩)
  split at hl
  · next near =>
    cases hl
    exact .inr (.inl ⟨near.1, rfl⟩)
  split at hl
  · cases hl
  split at hl
  · cases hl
  · exact .inl ⟨k, hl⟩

variable [Scalar K]

theorem linked_mergePosition {config : Config K} {i : Nat} {x y : K}
    (linked : (mergePosition config i x y s).Linked a b) : s.Linked a b := by
  obtain ⟨h, hl⟩ := linked
  rw [link_mergePosition] at hl
  exact ⟨h, hl⟩

/-- Two waypoints that a report of a spot links are its origin and its answer. -/
theorem ends_of_placeWaypoint (hs : s.WellFormed) {config : Config K} {x y : Checked K}
    {blocked : Checked (Compass Bool)} {origin : Json} {heading : Checked Heading}
    (apart : ¬ s.Linked a b)
    (linked : ((placeWaypoint config x y blocked origin heading).run s).state.Linked a b) :
    ∃ o i : Nat, origin = .int o ∧
      ((placeWaypoint config x y blocked origin heading).run s).result = .ok i ∧
      (a = o ∧ b = i ∨ a = i ∧ b = o) := by
  have placed := waypointPlaced hs config x y blocked origin heading
  generalize (placeWaypoint config x y blocked origin heading).run s = outcome
    at placed linked ⊢
  cases placed with
  | visited _ _ _ => exact absurd (linked_mergePosition linked) apart
  | first _ _ _ _ => exact absurd (linked_push linked) apart
  | @linked x y flags h o _ _ _ _ ho lt _ =>
    have older : o < (s.push x y flags false).size := by rw [size_push]; omega
    have newest : s.size < (s.push x y flags false).size := by rw [size_push]; omega
    rcases linked_joined older newest linked with before | ends
    · exact absurd (linked_push before) apart
    · exact ⟨o, s.size, ho, rfl, ends⟩
  | refused _ => exact absurd linked apart

theorem ends_of_placeObject (hs : s.WellFormed) {config : Config K} {origin : Json}
    {x y : Checked K} {heading : Checked Heading} (apart : ¬ s.Linked a b)
    (linked : ((placeObject config origin x y heading).run s).state.Linked a b) :
    ∃ o i : Nat, origin = .int o ∧
      ((placeObject config origin x y heading).run s).result = .ok i ∧
      (a = o ∧ b = i ∨ a = i ∧ b = o) := by
  have placed := objectPlaced hs config origin x y heading
  generalize (placeObject config origin x y heading).run s = outcome at placed linked ⊢
  cases placed with
  | @sighted x y h o i _ _ _ ho lt _ object =>
    have known : i < (mergePosition config i x y s).size := by
      rw [size_mergePosition]
      exact lt_size_of_isObject object
    have here : o < (mergePosition config i x y s).size := by rwa [size_mergePosition]
    rcases linked_joined here known linked with before | ends
    · exact absurd (linked_mergePosition before) apart
    · exact ⟨o, i, ho, rfl, ends⟩
  | @created x y h o _ _ _ ho lt _ =>
    have older : o < (s.push x y (.replicate true) true).size := by rw [size_push]; omega
    have newest : s.size < (s.push x y (.replicate true) true).size := by rw [size_push]; omega
    rcases linked_joined older newest linked with before | ends
    · exact absurd (linked_push before) apart
    · exact ⟨o, s.size, ho, rfl, ends⟩
  | refused _ => exact absurd linked apart

end Store

namespace Request

open Store

/-- The waypoint that a report is made from. -/
def origin? : Request K → Option Json
  | placeWaypoint _ _ _ origin _ => some origin
  | placeObject origin _ _ _ => some origin
  | _ => none

variable [Scalar K] {g : Graph K}

/-- Whether a report links two waypoints that were not linked. One of them is its origin, and the
other is its answer. -/
structure Links (g : Graph K) (r : Request K) (a b : Nat) : Prop where
  ends : ∃ o i : Nat, r.origin? = some (.int o) ∧ (r.perform.run g).result = .ok (.id i) ∧
    (a = o ∧ b = i ∨ a = i ∧ b = o)
  apart : ¬ g.store.Linked a b
  linked : (r.perform.run g).state.store.Linked a b

/-- A report links a waypoint with at most one other. -/
theorem Links.unique {r : Request K} {k a b : Nat} (first : r.Links g k a)
    (second : r.Links g k b) : a = b := by
  obtain ⟨o, i, origin, answer, ends⟩ := first.ends
  obtain ⟨o', i', origin', answer', ends'⟩ := second.ends
  cases origin.symm.trans origin'
  cases answer.symm.trans answer'
  rcases ends with ⟨rfl, rfl⟩ | ⟨rfl, rfl⟩
  · rcases ends' with ⟨-, rfl⟩ | ⟨same, rfl⟩
    · rfl
    · exact same.symm
  · rcases ends' with ⟨same, rfl⟩ | ⟨-, rfl⟩
    · exact same.symm
    · rfl

theorem links_of_linked (hg : g.store.WellFormed) {r : Request K} (hr : r.isPlacement = true)
    {a b : Nat} (apart : ¬ g.store.Linked a b)
    (linked : (r.perform.run g).state.store.Linked a b) : r.Links g a b := by
  refine ⟨?_, apart, linked⟩
  cases r with
  | placeWaypoint x y blocked origin heading =>
    rw [perform, Call.run_map] at linked ⊢
    obtain ⟨o, i, rfl, answer, ends⟩ := ends_of_placeWaypoint hg apart linked
    exact ⟨o, i, rfl, congrArg (Except.map Answer.id) answer, ends⟩
  | placeObject origin x y heading =>
    rw [perform, Call.run_map] at linked ⊢
    obtain ⟨o, i, rfl, answer, ends⟩ := ends_of_placeObject hg apart linked
    exact ⟨o, i, rfl, congrArg (Except.map Answer.id) answer, ends⟩
  | create x y blocked hasObject => cases hr
  | connect a heading b => cases hr
  | configure config => cases hr
  | get id => cases hr
  | nearby x y => cases hr
  | isFrontier id => cases hr
  | pathToFrontier id => cases hr
  | pathToObject id => cases hr

/-- A link that was not there before a session of reports goes back to one of them. -/
theorem linked_run (hg : g.store.WellFormed) {session : List (Request K)}
    (hs : ∀ r ∈ session, r.isPlacement = true) {a b : Nat}
    (linked : (run g session).store.Linked a b) :
    g.store.Linked a b ∨ ∃ earlier r later, session = earlier ++ r :: later ∧
      r.Links (run g earlier) a b := by
  induction session generalizing g with
  | nil => exact .inl linked
  | cons r rest ih =>
    by_cases before : g.store.Linked a b
    · exact .inl before
    rcases ih (hg.changes (changes_perform r hg)) (fun q hq => hs q (by simp [hq])) linked with
      now | ⟨earlier, q, later, rfl, links⟩
    · exact .inr ⟨[], r, rest, rfl, links_of_linked hg (hs r (by simp)) before now⟩
    · exact .inr ⟨r :: earlier, q, later, rfl, links⟩

theorem lt_size_run (hg : g.store.WellFormed) (session : List (Request K)) {k : Nat}
    (hk : k < g.store.size) : k < (run g session).store.size := by
  obtain ⟨w, hw⟩ := exists_waypoint hk
  obtain ⟨v, hv, -⟩ := (Onward.changes (changes_run hg session)).kept (bare_of_getElem? hw)
  exact lt_size_of_bare hv

/-- Whether one report of a session linked a waypoint with `a`, and a later one, which found it
on the map, with `b`. -/
def LinksTwice (g : Graph K) (session : List (Request K)) (k a b : Nat) : Prop :=
  ∃ first r between r' last, session = first ++ r :: (between ++ r' :: last) ∧
    r.Links (run g first) k a ∧ k < (run g (first ++ r :: between)).store.size ∧
    r'.Links (run g (first ++ r :: between)) k b

theorem linksTwice_of_split (hg : g.store.WellFormed) {first between last last' : List (Request K)}
    {r r' : Request K} {k a b : Nat} (ne : a ≠ b) (links : r.Links (run g first) k a)
    (links' : r'.Links (run g (first ++ between)) k b)
    (tail : r :: last = between ++ r' :: last') : LinksTwice g (first ++ r :: last) k a b := by
  cases between with
  | nil =>
    cases tail
    rw [List.append_nil] at links'
    exact absurd (links.unique links') ne
  | cons q between =>
    cases tail
    refine ⟨first, r, between, r', last', rfl, links, ?_, links'⟩
    obtain ⟨h, hl⟩ := links.linked
    have before : (run g first).store.WellFormed := hg.changes (changes_run hg first)
    rw [run_append]
    exact lt_size_run (before.changes (changes_perform r before)) between (lt_size_of_link hl)

/-- Two links of a waypoint come from two reports, one after the other. -/
theorem linksTwice_of_linked (hg : g.store.WellFormed) (none : ∀ i j, ¬ g.store.Linked i j)
    {session : List (Request K)} (hs : ∀ r ∈ session, r.isPlacement = true) {k a b : Nat}
    (ne : a ≠ b) (ha : (run g session).store.Linked k a)
    (hb : (run g session).store.Linked k b) :
    LinksTwice g session k a b ∨ LinksTwice g session k b a := by
  obtain old | ⟨first, r, last, rfl, links⟩ := linked_run hg hs ha
  · exact absurd old (none k a)
  obtain old | ⟨first', r', last', split, links'⟩ := linked_run hg hs hb
  · exact absurd old (none k b)
  obtain ⟨between, rfl, tail⟩ | ⟨between, rfl, tail⟩ := List.append_eq_append_iff.1 split
  · exact .inl (linksTwice_of_split hg ne links links' tail)
  · rw [split]
    exact .inr (linksTwice_of_split hg ne.symm links' links tail)

omit [Scalar K] in
theorem not_linked_empty (i j : Nat) : ¬ (empty : Store K).Linked i j := by
  rintro ⟨h, hl⟩
  exact absurd (lt_size_of_link hl) (Nat.not_lt_zero i)

variable [LawfulScalar K]

/-- On a map made of reports, an object inside a path to the nearest frontier or object has been
linked by two reports: by one with the waypoint before it, and by another with a different
waypoint after it. The later one found it on the map. Inside a path to the nearest object, it also
has the same label as the last waypoint, and a higher id. -/
theorem passed_object (config : Config K) {session : List (Request K)}
    (hs : ∀ r ∈ session, r.isPlacement = true) {id : Json} {path : List Nat} {a k b : Nat}
    (inner : [a, k, b] <:+: path) :
    let s := (run (.empty config) session).store
    s.isObject k = true → s.pathToFrontier id = .ok path ∨ s.pathToObject id = .ok path →
      a ≠ b ∧
      (LinksTwice (.empty config) session k a b ∨ LinksTwice (.empty config) session k b a) ∧
      (s.pathToObject id = .ok path → ∃ st target c d, s.spread id = .ok st ∧
        path.getLast? = some target ∧ st.label target = some c ∧ st.label k = some d ∧
        ¬ d < c ∧ ¬ c < d ∧ target < k) := by
  intro s object answer
  have hs' : s.WellFormed := Reachable.wellFormed ⟨config, session, rfl⟩
  have nonempty : path ≠ [] := by
    rintro rfl
    exact absurd inner.length_le (by simp)
  obtain ⟨isMatch, answer⟩ : ∃ isMatch, s.pathToNearest id isMatch = .ok path := by
    rcases answer with answer | answer
    · exact ⟨_, answer⟩
    · exact ⟨_, answer⟩
  obtain ⟨source, st, target, c, -, -, -, -, isPath⟩ := exists_closest_of_path answer nonempty
  obtain ⟨before, after, ne⟩ := isPath.passed inner
  refine ⟨ne, linksTwice_of_linked (g := .empty config) wellFormed_empty not_linked_empty hs ne
    (hs'.linked_symm before) after, ?_⟩
  intro answer
  obtain ⟨source, st, target, c, spread, rooted, closest, way, isPath⟩ :=
    exists_closest_of_path answer nonempty
  obtain ⟨d, hd, tie⟩ := closest.tie rooted way isPath inner object
  exact ⟨st, target, c, d, spread, isPath.last, closest.label, hd, tie⟩

/-- A robot that sees an object, goes around it, and sees it again from behind. -/
def circuit : List (Request Float) :=
  [.placeWaypoint (.ok 0.0) (.ok 0.0) (.ok (.replicate true)) (.int 0) (.ok .north),
    .placeObject (.int 0) (.ok 1.0) (.ok 0.0) (.ok .east),
    .placeWaypoint (.ok 0.0) (.ok 1.0) (.ok (.replicate true)) (.int 0) (.ok .north),
    .placeWaypoint (.ok 2.0) (.ok 1.0) (.ok (.replicate true)) (.int 2) (.ok .east),
    .placeWaypoint (.ok 2.0) (.ok 0.0) (.ok (.replicate false)) (.int 3) (.ok .south),
    .placeObject (.int 4) (.ok 1.0) (.ok 0.0) (.ok .west)]

/-- Two objects so far away that the step between them is lost in the sum. -/
def horizon : List (Request Float) :=
  [.placeWaypoint (.ok 0.0) (.ok 0.0) (.ok (.replicate true)) (.int 0) (.ok .north),
    .placeObject (.int 0) (.ok 1000000000.0) (.ok 0.0) (.ok .east),
    .placeObject (.int 0) (.ok 1000000000.2) (.ok 0.0) (.ok .east),
    .placeObject (.int 2) (.ok 1000000000.0) (.ok 0.0) (.ok .east)]

theorem pathToFrontier_circuit :
    (run (.empty .default) circuit).store.pathToFrontier (.int 0) = .ok [0, 1, 4] := by
  refine pathToNearest_of_rounds (n := 9) (by decide +kernel) ?_
  decide +kernel

theorem pathToObject_horizon :
    (run (.empty .default) horizon).store.pathToObject (.int 0) = .ok [0, 2, 1] := by
  refine pathToNearest_of_rounds (n := 9) (by decide +kernel) ?_
  decide +kernel

theorem passed_object_horizon :
    let s := (run (.empty .default) horizon).store
    (∀ r ∈ horizon, r.isPlacement = true) ∧ [0, 2, 1] <:+: [0, 2, 1] ∧ s.isObject 2 = true ∧
      s.pathToObject (.int 0) = .ok [0, 2, 1] ∧
      (LinksTwice (.empty .default) horizon 2 0 1 ∨ LinksTwice (.empty .default) horizon 2 1 0) ∧
      ∃ (st : Search Float) (c d : Float), s.spread (.int 0) = .ok st ∧ st.label 1 = some c ∧
        st.label 2 = some d ∧ ¬ d < c ∧ ¬ c < d := by
  intro s
  have hs : ∀ r ∈ horizon, r.isPlacement = true := by decide
  have inner : [0, 2, 1] <:+: [0, 2, 1] := List.infix_rfl
  have object : s.isObject 2 = true := by decide +kernel
  have answer : s.pathToObject (.int 0) = .ok [0, 2, 1] := pathToObject_horizon
  obtain ⟨-, twice, tie⟩ := passed_object .default hs inner object (.inr answer)
  obtain ⟨st, target, c, d, spread, ⟨⟩, hc, hd, least, greatest, -⟩ := tie answer
  exact ⟨hs, inner, object, answer, twice, st, c, d, spread, hc, hd, least, greatest⟩

/-- A path may lead past an object, to a frontier and to another object. -/
theorem objects_inside_paths :
    (∀ r ∈ circuit, r.isFinitePlacement = true) ∧
      (∀ r ∈ horizon, r.isFinitePlacement = true) ∧
      (let s := (run (.empty .default) circuit).store
      s.pathToFrontier (.int 0) = .ok [0, 1, 4] ∧ s.isObject 1 = true) ∧
      (let s := (run (.empty .default) horizon).store
      s.pathToObject (.int 0) = .ok [0, 2, 1] ∧ s.isObject 2 = true) := by
  refine ⟨by decide +kernel, by decide +kernel, ?_, ?_⟩
  · exact ⟨pathToFrontier_circuit, by decide +kernel⟩
  · exact ⟨pathToObject_horizon, by decide +kernel⟩

end Request

end WaypointMap
