import Mathlib.Logic.Relation
import WaypointMap.Graph.Request
import WaypointMap.Proofs.Store.WellFormed

/-!
# Changes

A session changes its store in three ways only: a waypoint is added, a waypoint is moved, and
two waypoints are joined. Requests that fail, or only ask, change nothing. What each change
keeps therefore holds after every session.
-/

namespace WaypointMap

open Relation (ReflTransGen)

variable {K : Type}

namespace Store

inductive Change : Store K → Store K → Prop where
  | push (s : Store K) (x y : K) (blocked : Compass Bool) (hasObject : Bool) :
      Change s (s.push x y blocked hasObject)
  | moveTo (s : Store K) (i : Nat) (x y : K) : Change s (s.moveTo i x y)
  | joined (s : Store K) {i j : Nat} (hi : i < s.size) (hj : j < s.size) (h : Heading) :
      Change s (s.joined i h j)

/-- Some changes, one after the other. -/
abbrev Changes : Store K → Store K → Prop := ReflTransGen Change

theorem WellFormed.change {s t : Store K} (hs : s.WellFormed) (c : Change s t) :
    t.WellFormed := by
  cases c with
  | push x y blocked hasObject => exact hs.push x y blocked hasObject
  | moveTo i x y => exact hs.moveTo i x y
  | joined hi hj h => exact hs.joined hi hj h

theorem WellFormed.changes {s t : Store K} (hs : s.WellFormed) (c : Changes s t) :
    t.WellFormed := by
  induction c with
  | refl => exact hs
  | tail _ last ih => exact ih.change last

/-! ## Calls on a store -/

/-- A waypoint is created if all arguments pass their checks; otherwise nothing happens. -/
theorem run_create (x y : Checked K) (blocked : Checked (Compass Bool)) (hasObject : Bool)
    (s : Store K) :
    (∃ x' y' b, x = .ok x' ∧ y = .ok y' ∧ blocked = .ok b ∧
      (create x y blocked hasObject).run s = ⟨.ok s.size, s.push x' y' b hasObject, []⟩) ∨
    ∃ e, (create x y blocked hasObject).run s = ⟨.error e, s, []⟩ := by
  cases blocked with
  | error e => exact .inr ⟨e, rfl⟩
  | ok b =>
    cases x with
    | error e => exact .inr ⟨e, rfl⟩
    | ok x =>
      cases y with
      | error e => exact .inr ⟨e, rfl⟩
      | ok y => exact .inl ⟨x, y, b, rfl, rfl, rfl, rfl⟩

theorem changes_create (x y : Checked K) (blocked : Checked (Compass Bool)) (hasObject : Bool)
    (s : Store K) : Changes s ((create x y blocked hasObject).run s).state := by
  obtain ⟨x', y', b, -, -, -, hr⟩ | ⟨e, hr⟩ := run_create x y blocked hasObject s
  · rw [hr]
    exact .single (.push s x' y' b hasObject)
  · rw [hr]

theorem run_connect_of_lt {s : Store K} (hs : s.InRange) {i j : Nat} (hi : i < s.size)
    (hj : j < s.size) (h : Heading) :
    (connect (.int i) (.ok h) (.int j)).run s = ⟨.ok (), s.joined i h j, s.joinedLog i h j⟩ := by
  have first : s.resolve (.int i) = .ok i := resolve_eq_ok_iff.2 ⟨rfl, hi⟩
  have second : s.resolve (.int j) = .ok j := resolve_eq_ok_iff.2 ⟨rfl, hj⟩
  simp [connect, Call.run_bind, first, second, run_join hs]

/-- Two waypoints are joined if all arguments pass their checks; otherwise nothing happens. -/
theorem run_connect {s : Store K} (hs : s.InRange) (a : Json) (heading : Checked Heading)
    (b : Json) :
    (∃ (i j : Nat) (h : Heading), a = .int i ∧ i < s.size ∧ heading = .ok h ∧ b = .int j ∧
      j < s.size ∧
      (connect a heading b).run s = ⟨.ok (), s.joined i h j, s.joinedLog i h j⟩) ∨
    ∃ e, (connect a heading b).run s = ⟨.error e, s, []⟩ := by
  cases heading with
  | error e => exact .inr ⟨e, rfl⟩
  | ok h =>
    cases hi : s.resolve a with
    | error e => exact .inr ⟨e, by simp [connect, Call.run_bind, hi]⟩
    | ok i =>
      cases hj : s.resolve b with
      | error e => exact .inr ⟨e, by simp [connect, Call.run_bind, hi, hj]⟩
      | ok j =>
        obtain ⟨rfl, hi'⟩ := resolve_eq_ok_iff.1 hi
        obtain ⟨rfl, hj'⟩ := resolve_eq_ok_iff.1 hj
        exact .inl ⟨i, j, h, rfl, hi', rfl, rfl, hj', run_connect_of_lt hs hi' hj' h⟩

theorem changes_connect {s : Store K} (hs : s.WellFormed) (a : Json) (heading : Checked Heading)
    (b : Json) : Changes s ((connect a heading b).run s).state := by
  obtain ⟨i, j, h, -, hi, -, -, hj, hr⟩ | ⟨e, hr⟩ := run_connect hs.inRange a heading b
  · rw [hr]
    exact .single (.joined s hi hj h)
  · rw [hr]

section Placement

variable [Scalar K]

/-- To blend a report in is to move a waypoint, or to do nothing. -/
theorem mergePosition_eq {s : Store K} {i : Nat} {w : Waypoint K} (hw : s.waypoints[i]? = some w)
    (config : Config K) (x y : K) :
    mergePosition config i x y s =
      if config.smoothing then s.moveTo i (blend w.x x) (blend w.y y) else s := by
  unfold mergePosition
  split
  · ext j : 1
    rw [moveTo, getElem?_adjust, getElem?_adjust]
    split
    · next hj => rw [← hj, hw, Option.map_some, Option.map_some]
    · rfl
  · rfl

theorem changes_mergePosition (config : Config K) (i : Nat) (x y : K) (s : Store K) :
    Changes s (mergePosition config i x y s) := by
  cases hw : s.waypoints[i]? with
  | none =>
    have same : mergePosition config i x y s = s := by
      unfold mergePosition
      split
      · ext j : 1
        rw [getElem?_adjust]
        split
        · next hj => rw [← hj, hw, Option.map_none]
        · rfl
      · rfl
    rw [same]
  | some w =>
    rw [mergePosition_eq hw]
    split
    · exact .single (.moveTo s i _ _)
    · exact .refl

@[simp] theorem size_mergePosition (config : Config K) (i : Nat) (x y : K) (s : Store K) :
    (mergePosition config i x y s).size = s.size := by
  unfold mergePosition
  split <;> simp

theorem link_mergePosition (config : Config K) (i : Nat) (x y : K) (s : Store K) (j : Nat)
    (k : Heading) : (mergePosition config i x y s).link j k = s.link j k := by
  unfold mergePosition
  split
  · simp only [link, getElem?_adjust]
    split <;> simp [Function.comp_def]
  · rfl

omit [Scalar K] in
theorem changes_push_joined (s : Store K) (x y : K) (blocked : Compass Bool)
    (hasObject : Bool) {o : Nat} (ho : o < s.size) (h : Heading) :
    Changes s ((s.push x y blocked hasObject).joined o h s.size) :=
  .tail (.single (.push s x y blocked hasObject))
    (.joined _ (by rw [size_push]; omega) (by rw [size_push]; omega) h)

theorem changes_placeWaypoint {s : Store K} (hs : s.WellFormed) (config : Config K)
    (x y : Checked K) (blocked : Checked (Compass Bool)) (origin : Json)
    (heading : Checked Heading) :
    Changes s ((placeWaypoint config x y blocked origin heading).run s).state := by
  simp only [placeWaypoint, Call.run_bind, Call.run_ask]
  cases s.nearby x y config.threshold with
  | error e => exact .refl
  | ok found =>
    cases found with
    | some i =>
      cases x with
      | error e => exact .refl
      | ok x =>
        cases y with
        | error e => exact .refl
        | ok y => exact changes_mergePosition config i x y s
    | none =>
      simp only [Call.run_bind, Call.run_read]
      by_cases first : s.size = 0
      · simp only [first, if_true, Call.run_bind]
        obtain ⟨x, y, b, rfl, rfl, rfl, hr⟩ | ⟨e, hr⟩ := run_create x y blocked false s
        · simp only [hr, Call.run_check, Call.run_log, Call.run_pure]
          exact .single (.push s x y b false)
        · simp only [hr]
          exact .refl
      · simp only [if_neg first, Call.run_bind, Call.run_check, Call.run_ask]
        cases heading with
        | error e => exact .refl
        | ok h =>
          cases ho : s.resolve origin with
          | error e => exact .refl
          | ok o =>
            obtain ⟨x, y, b, rfl, rfl, rfl, hr⟩ | ⟨e, hr⟩ := run_create x y blocked false s
            · simp only [hr, run_join (hs.push x y b false).inRange, Call.run_log, Call.run_pure]
              exact changes_push_joined s x y b false (resolve_eq_ok_iff.1 ho).2 h
            · simp only [hr]
              exact .refl

omit [Scalar K] in
theorem lt_size_of_isObject {s : Store K} {i : Nat} (h : s.isObject i = true) : i < s.size := by
  cases hw : s.waypoints[i]? with
  | none => simp [isObject, hw] at h
  | some w => exact (Array.getElem?_eq_some_iff.1 hw).1

theorem lt_size_of_nearbyObject {s : Store K} {x y : Checked K} {threshold : K} {i : Nat}
    (h : s.nearbyObject x y threshold = .ok (some i)) : i < s.size := by
  unfold nearbyObject at h
  cases hn : s.nearby x y threshold with
  | error e => simp [hn, bind, Except.bind] at h
  | ok found =>
    simp only [hn, bind, Except.bind, pure, Except.pure, Except.ok.injEq,
      Option.filter_eq_some_iff] at h
    exact lt_size_of_isObject h.2

theorem changes_placeObject {s : Store K} (hs : s.WellFormed) (config : Config K)
    (origin : Json) (x y : Checked K) (heading : Checked Heading) :
    Changes s ((placeObject config origin x y heading).run s).state := by
  simp only [placeObject, Call.run_bind, Call.run_ask, Call.run_check]
  cases heading with
  | error e => exact .refl
  | ok h =>
    cases ho : s.resolve origin with
    | error e => exact .refl
    | ok o =>
      have hos := (resolve_eq_ok_iff.1 ho).2
      cases hf : s.nearbyObject x y config.threshold with
      | error e => exact .refl
      | ok found =>
        cases found with
        | some i =>
          cases x with
          | error e => exact .refl
          | ok x =>
            cases y with
            | error e => exact .refl
            | ok y =>
              have hi := lt_size_of_nearbyObject hf
              have moved := changes_mergePosition config i x y s
              have ht := hs.changes moved
              simp only [Call.run_bind, Call.run_check, Call.run_log, Call.run_update,
                run_join ht.inRange, Call.run_pure]
              exact moved.tail (.joined _ (by simpa using hos) (by simpa using hi) h)
        | none =>
          simp only [Call.run_bind]
          obtain ⟨x, y, b, rfl, rfl, hb, hr⟩ | ⟨e, hr⟩ :=
            run_create x y (.ok (.replicate true)) true s
          · simp only [hr, Call.run_check, Call.run_log, run_join (hs.push x y b true).inRange,
              Call.run_pure]
            exact changes_push_joined s x y b true hos h
          · simp only [hr]
            exact .refl

end Placement

end Store

namespace Request

variable [Scalar K]

theorem changes_perform (r : Request K) {g : Graph K} (hg : g.store.WellFormed) :
    g.store.Changes (r.perform.run g).state.store := by
  cases r with
  | create x y blocked hasObject =>
    rw [perform, Call.run_map]
    exact Store.changes_create x y blocked hasObject g.store
  | connect a heading b =>
    rw [perform, Call.run_map]
    exact Store.changes_connect hg a heading b
  | placeWaypoint x y blocked origin heading =>
    rw [perform, Call.run_map]
    exact Store.changes_placeWaypoint hg g.config x y blocked origin heading
  | placeObject origin x y heading =>
    rw [perform, Call.run_map]
    exact Store.changes_placeObject hg g.config origin x y heading
  | configure config =>
    cases config with
    | error e => exact .refl
    | ok config => exact .refl
  | get id => exact .refl
  | nearby x y => exact .refl
  | isFrontier id => exact .refl
  | pathToFrontier id => exact .refl
  | pathToObject id => exact .refl

theorem run_append (g : Graph K) (before after : List (Request K)) :
    run g (before ++ after) = run (run g before) after :=
  List.foldl_append

theorem changes_run {g : Graph K} (hg : g.store.WellFormed) (session : List (Request K)) :
    g.store.Changes (run g session).store := by
  induction session generalizing g with
  | nil => exact .refl
  | cons r rest ih =>
    have first := changes_perform r hg
    exact first.trans (ih (hg.changes first))

end Request

/-- Whether a session on an empty map leads to a store. -/
def Store.Reachable [Scalar K] (s : Store K) : Prop :=
  ∃ (config : Config K) (session : List (Request K)),
    (Request.run (.empty config) session).store = s

theorem Store.Reachable.wellFormed [Scalar K] {s : Store K} (hs : s.Reachable) :
    s.WellFormed := by
  obtain ⟨config, session, rfl⟩ := hs
  exact wellFormed_empty.changes (Request.changes_run (g := .empty config) wellFormed_empty session)

/-- After every session, whatever its requests ask for and however many of them fail, ids are
positions, each waypoint has four links that are unexplored, blocked or lead to a waypoint of
the map, and links go both ways; so no two waypoints lead to the same one in the same
heading. -/
theorem Request.run_wellFormed [Scalar K] (config : Config K) (session : List (Request K)) :
    let s := (run (.empty config) session).store
    (∀ (i : Nat) (w : Waypoint K), s.waypoints[i]? = some w →
      w.id = i ∧ w.links.toList.length = 4 ∧ ∀ l ∈ w.links.toList, l.IsValid s.size) ∧
    (∀ (a : Nat) (h : Heading) (b : Nat),
      s.link a h = some (.leadsTo b) ↔ s.link b h.opposite = some (.leadsTo a)) ∧
    ∀ (a a' : Nat) (h : Heading) (b : Nat),
      s.link a h = some (.leadsTo b) → s.link a' h = some (.leadsTo b) → a = a' := by
  intro s
  have hs : s.WellFormed := Store.Reachable.wellFormed ⟨config, session, rfl⟩
  refine ⟨fun i w hw => ⟨hs.ids hw, rfl, fun l hl => ?_⟩, hs.reciprocal,
    fun a a' h b => hs.injective⟩
  obtain ⟨h, rfl⟩ := Compass.mem_toList_iff.1 hl
  exact hs.links (i := i) (h := h) (by simp [Store.link, hw])

end WaypointMap
