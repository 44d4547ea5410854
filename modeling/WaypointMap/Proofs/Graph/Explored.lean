import WaypointMap.Drawing
import WaypointMap.Proofs.Graph.Progress
import WaypointMap.Proofs.Search.Passage

/-!
# Objects are explored

An object starts with all of its headings blocked, and no link is ever unexplored again. So as long
as objects come from reports, none has a heading to explore: a path to a frontier does not end at
an object, nor a path to an object at a frontier, and each waypoint is drawn as the one or the other.
-/

namespace WaypointMap

variable {K : Type}

namespace Store

/-- Whether no object has an unexplored heading. -/
def Sealed (s : Store K) : Prop :=
  ∀ ⦃i : Nat⦄ ⦃h : Heading⦄, s.isObject i = true → s.link i h ≠ some .unknown

theorem sealed_empty : (empty : Store K).Sealed := by
  intro i h object
  exact absurd (lt_size_of_isObject object) (Nat.not_lt_zero i)

section Sealed

variable {s : Store K} (sealed : s.Sealed) {i : Nat} {w : Waypoint K}
  (hw : s.waypoints[i]? = some w)

include sealed hw

theorem Sealed.explored (object : w.hasObject = true) (h : Heading) : w.links.get h ≠ .unknown := by
  intro unexplored
  refine sealed (i := i) (h := h) ?_ ?_
  · rw [isObject_of_bare (bare_of_getElem? hw)]
    exact object
  · rw [link, hw, Option.map_some, unexplored]

theorem Sealed.isFrontier_eq_false (object : w.hasObject = true) : w.isFrontier = false := by
  rw [← Bool.not_eq_true, Waypoint.isFrontier_iff]
  rintro ⟨h, unexplored⟩
  exact sealed.explored hw object h unexplored

theorem Sealed.hasObject_eq_false (frontier : s.isFrontier i = true) : w.hasObject = false := by
  rw [Store.isFrontier, hw] at frontier
  by_contra object
  cases frontier.symm.trans (sealed.isFrontier_eq_false hw (by simpa using object))

omit hw in
theorem Sealed.isObject_eq_false (frontier : s.isFrontier i = true) : s.isObject i = false := by
  by_contra object
  rw [Bool.not_eq_false] at object
  obtain ⟨w, hw⟩ := exists_waypoint (lt_size_of_isObject object)
  rw [isObject, hw] at object
  cases object.symm.trans (sealed.hasObject_eq_false hw frontier)

end Sealed

/-! ## What keeps objects explored -/

variable {s t : Store K}

/-- Old objects stay explored. -/
theorem Sealed.onward (sealed : s.Sealed) (step : s.Onward t)
    (new : ∀ i h, s.size ≤ i → t.isObject i = true → t.link i h ≠ some .unknown) : t.Sealed := by
  intro i h object unexplored
  by_cases hi : i < s.size
  · obtain ⟨w, hw⟩ := exists_waypoint hi
    obtain ⟨v, hv, -, same⟩ := step.kept (bare_of_getElem? hw)
    refine sealed ?_ (step.explored hi unexplored)
    rw [isObject_of_bare (bare_of_getElem? hw), ← same, ← isObject_of_bare hv]
    exact object
  · exact new i h (Nat.le_of_not_lt hi) object unexplored

theorem not_isObject_of_size_eq {i : Nat} (hi : s.size ≤ i) (same : t.size = s.size) :
    ¬ t.isObject i = true := fun object =>
  absurd (lt_size_of_isObject object) (same ▸ hi.not_gt)

theorem not_isObject_of_bare_newcomer {x y : K} {i : Nat} (hi : s.size ≤ i)
    (bare : t.bare i = if i = s.size then some (s.newcomer x y false) else s.bare i) :
    ¬ t.isObject i = true := by
  intro object
  split at bare
  · rw [isObject_of_bare bare] at object
    cases object
  · obtain ⟨w, hw⟩ := exists_waypoint (lt_size_of_isObject object)
    exact absurd (lt_size_of_bare (bare.symm.trans (bare_of_getElem? hw))) hi.not_gt

theorem link_withObject_ne_unknown {x y : K} {o i : Nat} (lt : o < s.size) (hi : s.size ≤ i)
    (h k : Heading) : (s.withObject x y o h).link i k ≠ some .unknown := by
  intro unexplored
  have size : (s.push x y (.replicate true) true).size = s.size + 1 := size_push ..
  have before : i < s.size + 1 := size_withObject s x y o h ▸ lt_size_of_link unexplored
  obtain rfl : i = s.size := by omega
  have pushed := (Onward.change (.joined (s := s.push x y (.replicate true) true)
    (by omega) (by omega) h)).explored (by omega) unexplored
  rw [link_push, if_pos rfl, Compass.get_replicate] at pushed
  cases pushed

theorem sealed_create (sealed : s.Sealed) (x y : Checked K) (blocked : Checked (Compass Bool)) :
    ((create x y blocked false).run s).state.Sealed := by
  refine sealed.onward (.changes (changes_create x y blocked false s)) fun i h hi object => ?_
  obtain ⟨x', y', b, -, -, -, hr⟩ | ⟨e, hr⟩ := run_create x y blocked false s
  · rw [hr] at object
    exact absurd object (not_isObject_of_bare_newcomer hi (bare_push ..))
  · rw [hr] at object
    exact absurd object (not_isObject_of_size_eq hi rfl)

theorem sealed_connect (hs : s.WellFormed) (sealed : s.Sealed) (a : Json)
    (heading : Checked Heading) (b : Json) : ((connect a heading b).run s).state.Sealed := by
  refine sealed.onward (.changes (changes_connect hs a heading b)) fun i h hi object => ?_
  obtain ⟨o, j, k, -, -, -, -, -, hr⟩ | ⟨e, hr⟩ := run_connect hs.inRange a heading b
  · rw [hr] at object
    exact absurd object (not_isObject_of_size_eq hi (size_joined ..))
  · rw [hr] at object
    exact absurd object (not_isObject_of_size_eq hi rfl)

variable [Scalar K]

theorem sealed_placeWaypoint (hs : s.WellFormed) (sealed : s.Sealed) (config : Config K)
    (x y : Checked K) (blocked : Checked (Compass Bool)) (origin : Json)
    (heading : Checked Heading) :
    ((placeWaypoint config x y blocked origin heading).run s).state.Sealed := by
  have step := Onward.changes (changes_placeWaypoint hs config x y blocked origin heading)
  refine sealed.onward step fun i h hi object => ?_
  have placed := waypointPlaced hs config x y blocked origin heading
  generalize (placeWaypoint config x y blocked origin heading).run s = outcome at placed object
  cases placed with
  | visited _ _ _ => exact absurd object (not_isObject_of_size_eq hi (size_mergePosition ..))
  | first _ _ _ _ => exact absurd object (not_isObject_of_bare_newcomer hi (bare_push ..))
  | linked _ _ _ _ _ _ _ =>
    exact absurd object (not_isObject_of_bare_newcomer hi (bare_push_joined ..))
  | refused _ => exact absurd object (not_isObject_of_size_eq hi rfl)

theorem sealed_placeObject (hs : s.WellFormed) (sealed : s.Sealed) (config : Config K)
    (origin : Json) (x y : Checked K) (heading : Checked Heading) :
    ((placeObject config origin x y heading).run s).state.Sealed := by
  have step := Onward.changes (changes_placeObject hs config origin x y heading)
  refine sealed.onward step fun i h hi object => ?_
  have placed := objectPlaced hs config origin x y heading
  generalize (placeObject config origin x y heading).run s = outcome at placed object ⊢
  cases placed with
  | sighted _ _ _ _ _ _ _ =>
    exact absurd object
      (not_isObject_of_size_eq hi ((size_joined ..).trans (size_mergePosition ..)))
  | created _ _ _ _ lt _ => exact link_withObject_ne_unknown lt hi _ h
  | refused _ => exact absurd object (not_isObject_of_size_eq hi rfl)

/-- A path to the nearest match ends at a match. -/
theorem fits_of_path [LawfulScalar K] {id : Json} {isMatch : Nat → Bool} {path : List Nat}
    {last : Nat} (answer : s.pathToNearest id isMatch = .ok path)
    (ends : path.getLast? = some last) : isMatch last = true := by
  have nonempty : path ≠ [] := by
    rintro rfl
    cases ends
  obtain ⟨_, _, target, _, -, -, closest, -, isPath⟩ := exists_closest_of_path answer nonempty
  obtain rfl : target = last := Option.some.inj (isPath.last.symm.trans ends)
  exact closest.holds

end Store

theorem Waypoint.hasObject_of_mem_strokes {w : Waypoint K} {showIds : Bool} {point : K × K}
    (drawn : .marker point .object ∈ w.strokes showIds) : w.hasObject = true := by
  have ink : w.ink = .object := by
    rcases List.mem_cons.1 drawn with marker | label
    · exact (Stroke.marker.inj marker).2.symm
    · split at label
      · cases List.mem_singleton.1 label
      · cases label
  unfold Waypoint.ink at ink
  split at ink
  · assumption
  · split at ink <;> cases ink

namespace Request

open Store

/-- Whether a request makes an object by hand, which may then be unexplored. -/
def createsObject : Request K → Bool
  | create _ _ _ hasObject => hasObject
  | _ => false

variable [Scalar K]

theorem createsObject_of_isFinitePlacement {r : Request K} (hr : r.isFinitePlacement = true) :
    r.createsObject = false := by
  cases r with
  | create => cases hr
  | _ => rfl

theorem sealed_perform {g : Graph K} (hg : g.store.WellFormed) (sealed : g.store.Sealed)
    {r : Request K} (hr : r.createsObject = false) : (r.perform.run g).state.store.Sealed := by
  cases r with
  | create x y blocked hasObject =>
    obtain rfl : hasObject = false := hr
    rw [perform, Call.run_map]
    exact sealed_create sealed x y blocked
  | connect a heading b =>
    rw [perform, Call.run_map]
    exact sealed_connect hg sealed a heading b
  | placeWaypoint x y blocked origin heading =>
    rw [perform, Call.run_map]
    exact sealed_placeWaypoint hg sealed g.config x y blocked origin heading
  | placeObject origin x y heading =>
    rw [perform, Call.run_map]
    exact sealed_placeObject hg sealed g.config origin x y heading
  | configure config =>
    cases config with
    | error e => exact sealed
    | ok config => exact sealed
  | get id => exact sealed
  | nearby x y => exact sealed
  | isFrontier id => exact sealed
  | pathToFrontier id => exact sealed
  | pathToObject id => exact sealed

theorem sealed_run {g : Graph K} (hg : g.store.WellFormed) (sealed : g.store.Sealed)
    {session : List (Request K)} (hs : ∀ r ∈ session, r.createsObject = false) :
    (run g session).store.Sealed := by
  induction session generalizing g with
  | nil => exact sealed
  | cons r rest ih =>
    have first := sealed_perform hg sealed (hs r (List.mem_cons_self ..))
    exact ih (hg.changes (changes_perform r hg)) first fun q hq =>
      hs q (List.mem_cons_of_mem _ hq)

/-- Whatever is asked of a map on which no object is made by hand, no object has an unexplored
heading. So a path to the nearest frontier ends at one that is no object, a path to the nearest
object at one that is no frontier, and what is drawn as an object is no frontier. -/
theorem object_explored [LawfulScalar K] (config : Config K) {session : List (Request K)}
    (hs : ∀ r ∈ session, r.createsObject = false) :
    let s := (run (.empty config) session).store
    (∀ (i : Nat) (w : Waypoint K), s.waypoints[i]? = some w → w.hasObject = true →
      ∀ h, w.links.get h ≠ .unknown) ∧
    (∀ id path last, s.pathToFrontier id = .ok path → path.getLast? = some last →
      s.isFrontier last = true ∧ s.isObject last = false) ∧
    (∀ id path last, s.pathToObject id = .ok path → path.getLast? = some last →
      s.isObject last = true ∧ s.isFrontier last = false) ∧
    ∀ w ∈ s.waypoints, ∀ showIds point, .marker point .object ∈ w.strokes showIds →
      w.hasObject = true ∧ w.isFrontier = false := by
  intro s
  have sealed : s.Sealed := sealed_run (g := .empty config) wellFormed_empty sealed_empty hs
  refine ⟨fun i w hw object => sealed.explored hw object, ?_, ?_, ?_⟩
  · intro id path last answer ends
    have frontier := fits_of_path answer ends
    exact ⟨frontier, sealed.isObject_eq_false frontier⟩
  · intro id path last answer ends
    have object := fits_of_path answer ends
    refine ⟨object, ?_⟩
    by_contra frontier
    rw [Bool.not_eq_false] at frontier
    cases object.symm.trans (sealed.isObject_eq_false frontier)
  · intro w hw showIds point drawn
    obtain ⟨i, hi⟩ := Array.getElem?_of_mem hw
    have object := Waypoint.hasObject_of_mem_strokes drawn
    exact ⟨object, sealed.isFrontier_eq_false hi object⟩

/-- An object that counts as a spot, is left to the north, and loses its origin to another object. -/
def survey : List (Request Float) :=
  [spot 0.0 .null, sighting 0.5 .north, .configure (.ok ⟨0.05, true⟩), spot 0.52 .null,
    .placeWaypoint (.ok 1.0) (.ok 0.0) (.ok (.replicate false)) (.int 1) (.ok .north),
    sighting 2.0 .north]

theorem object_explored_survey :
    let s := (run (.empty .default) survey).store
    let w : Waypoint Float :=
      ⟨1, 0.3 * 0.5 + 0.7 * 0.52, 0.0, ⟨.leadsTo 2, .blocked, .blocked, .blocked⟩, true⟩
    (∀ r ∈ survey, r.createsObject = false) ∧ s.waypoints[1]? = some w ∧
      (∀ h, w.links.get h ≠ .unknown) ∧ w.isFrontier = false ∧
      s.pathToFrontier (.int 1) = .ok [1, 2] ∧ s.isObject 2 = false ∧
      s.pathToObject (.int 2) = .ok [2, 1] ∧ s.isFrontier 1 = false := by
  intro s w
  have hs : ∀ r ∈ survey, r.createsObject = false := by decide
  have hw : s.waypoints[1]? = some w := by decide +kernel
  have toFrontier : s.pathToFrontier (.int 1) = .ok [1, 2] :=
    pathToNearest_of_rounds (n := 9) (by decide +kernel) (by decide +kernel)
  have toObject : s.pathToObject (.int 2) = .ok [2, 1] :=
    pathToNearest_of_rounds (n := 9) (by decide +kernel) (by decide +kernel)
  obtain ⟨explored, frontier, object, drawn⟩ := object_explored .default hs
  exact ⟨hs, hw, explored 1 w hw rfl,
    (drawn w (Array.mem_of_getElem? hw) true w.point List.mem_cons_self).2, toFrontier,
    (frontier _ _ 2 toFrontier rfl).2, toObject, (object _ _ 1 toObject rfl).2⟩

end Request

end WaypointMap
