import WaypointMap.Proofs.Store.Placement

/-!
# How a map grows

While positions are not smoothed, a placement leaves every waypoint at its spot and of its kind.
It may add one waypoint: a spot with no waypoint nearby, or an object whose nearest waypoint, if
one is nearby at all, is no object. What such steps keep holds after every run of placements.
-/

namespace WaypointMap

open Relation (ReflTransGen)

variable {K : Type} [Scalar K]

namespace Store

/-- Whether all waypoints have finite coordinates. -/
def IsFinite (s : Store K) : Prop := ∀ ⦃i : Nat⦄ ⦃w : Waypoint K⦄, s.bare i = some w → w.IsFinite

/-- Whether a placement may add a waypoint to a store. -/
structure Admits (s : Store K) (threshold : K) (w : Waypoint K) : Prop where
  finite : w.IsFinite
  spot : w.hasObject = false → s.nearestWithin w.x w.y threshold = none
  object : w.hasObject = true → ∀ {i : Nat}, s.nearestWithin w.x w.y threshold = some i →
    s.isObject i = false

/-- A step from a store to one with the same waypoints, links apart, or with one more. -/
inductive Growth (threshold : K) (s t : Store K) : Prop where
  | same (h : t.bare = s.bare)
  | added {w : Waypoint K} (admitted : s.Admits threshold w)
      (h : ∀ i, t.bare i = if i = s.size then some w else s.bare i)

variable {s t : Store K} {threshold : K}

/-! ## What growth keeps -/

theorem isFinite_empty : (empty : Store K).IsFinite := by
  intro i w hw
  exact absurd (lt_size_of_bare hw) (Nat.not_lt_zero i)

theorem Growth.bare (h : Growth threshold s t) {i : Nat} {w : Waypoint K}
    (hw : s.bare i = some w) : t.bare i = some w := by
  cases h with
  | same h => rw [h, hw]
  | added admitted h => rw [h, if_neg (Nat.ne_of_lt (lt_size_of_bare hw)), hw]

theorem Growth.isFinite (h : Growth threshold s t) (hs : s.IsFinite) : t.IsFinite := by
  intro i w hw
  cases h with
  | same h =>
    rw [h] at hw
    exact hs hw
  | added admitted h =>
    rw [h] at hw
    split at hw
    · cases hw
      exact admitted.finite
    · exact hs hw

theorem bare_of_growths (h : ReflTransGen (Growth threshold) s t) {i : Nat} {w : Waypoint K}
    (hw : s.bare i = some w) : t.bare i = some w := by
  induction h with
  | refl => exact hw
  | tail _ last ih => exact last.bare ih

theorem IsFinite.growths (hs : s.IsFinite) (h : ReflTransGen (Growth threshold) s t) :
    t.IsFinite := by
  induction h with
  | refl => exact hs
  | tail _ last ih => exact last.isFinite ih

theorem IsFinite.numbers [LawfulDistance K] (hs : s.IsFinite) {x y : K}
    (hx : Scalar.isFinite x = true) (hy : Scalar.isFinite y = true) :
    ∀ d ∈ s.squaredDistances x y, Scalar.isNaN d = false := by
  intro d hd
  obtain ⟨i, hi⟩ := List.getElem?_of_mem hd
  rw [getElem?_squaredDistances] at hi
  obtain ⟨w, hw, rfl⟩ := Option.map_eq_some_iff.1 hi
  exact Waypoint.isNaN_squaredDistanceTo (hs hw) hx hy

/-! ## Placements as growth -/

/-- A waypoint at the end of a store, apart from its links. -/
def newcomer (s : Store K) (x y : K) (hasObject : Bool) : Waypoint K :=
  ⟨s.size, x, y, .replicate .unknown, hasObject⟩

omit [Scalar K] in
theorem bare_push (s : Store K) (x y : K) (flags : Compass Bool) (hasObject : Bool) (i : Nat) :
    (s.push x y flags hasObject).bare i =
      if i = s.size then some (s.newcomer x y hasObject) else s.bare i := by
  rw [Store.bare, getElem?_push]
  split
  · rfl
  · rfl

omit [Scalar K] in
theorem bare_push_joined (s : Store K) (x y : K) (flags : Compass Bool) (hasObject : Bool)
    (o : Nat) (h : Heading) (i : Nat) :
    ((s.push x y flags hasObject).joined o h s.size).bare i =
      if i = s.size then some (s.newcomer x y hasObject) else s.bare i := by
  rw [bare_joined, bare_push]

omit [Scalar K] in
theorem bare_withObject (s : Store K) (x y : K) (o : Nat) (h : Heading) (i : Nat) :
    (s.withObject x y o h).bare i = if i = s.size then some (s.newcomer x y true) else s.bare i :=
  bare_push_joined ..

theorem admits_spot {x y : K} (hx : Scalar.isFinite x = true) (hy : Scalar.isFinite y = true)
    (far : s.nearestWithin x y threshold = none) :
    s.Admits threshold (s.newcomer x y false) :=
  ⟨⟨hx, hy⟩, fun _ => far, nofun⟩

theorem admits_object {x y : K} (hx : Scalar.isFinite x = true) (hy : Scalar.isFinite y = true)
    (hidden : ∀ {i : Nat}, s.nearestWithin x y threshold = some i → s.isObject i = false) :
    s.Admits threshold (s.newcomer x y true) :=
  ⟨⟨hx, hy⟩, nofun, fun _ => hidden⟩

/-- Whether a coordinate is finite, if there is one. -/
def isFiniteCoordinate : Checked K → Bool
  | .ok a => Scalar.isFinite a
  | .error _ => true

variable {config : Config K} {x y : Checked K}

theorem growth_placeWaypoint (hs : s.WellFormed) (off : config.smoothing = false)
    (hx : isFiniteCoordinate x = true) (hy : isFiniteCoordinate y = true)
    (blocked : Checked (Compass Bool)) (origin : Json) (heading : Checked Heading) :
    Growth config.threshold s ((placeWaypoint config x y blocked origin heading).run s).state := by
  have placed := waypointPlaced hs config x y blocked origin heading
  generalize (placeWaypoint config x y blocked origin heading).run s = outcome at placed
  cases placed with
  | visited _ _ _ =>
    rw [mergePosition_of_not_smoothing off]
    exact .same rfl
  | first ha hb _ empty =>
    subst ha hb
    exact .added (admits_spot hx hy (nearestWithin_of_size_eq_zero empty _ _ _))
      fun _ => bare_push ..
  | linked ha hb _ _ _ _ far =>
    subst ha hb
    exact .added (admits_spot hx hy far) fun _ => bare_push_joined ..
  | refused _ => exact .same rfl

theorem growth_placeObject (hs : s.WellFormed) (off : config.smoothing = false)
    (hx : isFiniteCoordinate x = true) (hy : isFiniteCoordinate y = true) (origin : Json)
    (heading : Checked Heading) :
    Growth config.threshold s ((placeObject config origin x y heading).run s).state := by
  have placed := objectPlaced hs config origin x y heading
  generalize (placeObject config origin x y heading).run s = outcome at placed
  cases placed with
  | sighted _ _ _ _ _ _ _ =>
    rw [mergePosition_of_not_smoothing off]
    exact .same (funext fun _ => bare_joined ..)
  | created ha hb _ _ _ hidden =>
    subst ha hb
    exact .added (admits_object hx hy hidden) fun _ => bare_withObject ..
  | refused _ => exact .same rfl

end Store

namespace Request

open Store

/-- Whether a request is a placement, and at a finite spot if it tells one. -/
def isFinitePlacement : Request K → Bool
  | placeWaypoint x y _ _ _ => isFiniteCoordinate x && isFiniteCoordinate y
  | placeObject _ x y _ => isFiniteCoordinate x && isFiniteCoordinate y
  | _ => false

theorem perform_placeWaypoint (g : Graph K) (x y : Checked K) (blocked : Checked (Compass Bool))
    (origin : Json) (heading : Checked Heading) :
    (placeWaypoint x y blocked origin heading).perform.run g =
      let placed := (Store.placeWaypoint g.config x y blocked origin heading).run g.store
      ⟨placed.result.map .id, { g with store := placed.state }, placed.log⟩ := by
  rw [perform, Call.run_map]
  rfl

theorem perform_placeObject (g : Graph K) (origin : Json) (x y : Checked K)
    (heading : Checked Heading) :
    (placeObject origin x y heading).perform.run g =
      let placed := (Store.placeObject g.config origin x y heading).run g.store
      ⟨placed.result.map .id, { g with store := placed.state }, placed.log⟩ := by
  rw [perform, Call.run_map]
  rfl

variable {g : Graph K}

/-- A report near a waypoint counts as that waypoint. -/
theorem perform_of_near {x y : K} {i : Nat}
    (near : g.store.nearestWithin x y g.config.threshold = some i)
    (blocked : Checked (Compass Bool)) (origin : Json) (heading : Checked Heading) :
    (placeWaypoint (.ok x) (.ok y) blocked origin heading).perform.run g =
      ⟨.ok (.id i), { g with store := mergePosition g.config i x y g.store }, [.visited i]⟩ := by
  rw [perform_placeWaypoint, run_placeWaypoint_of_near near]
  rfl

theorem growth_perform (hg : g.store.WellFormed) (off : g.config.smoothing = false)
    {r : Request K} (hr : r.isFinitePlacement = true) :
    Growth g.config.threshold g.store (r.perform.run g).state.store ∧
      (r.perform.run g).state.config = g.config := by
  cases r with
  | placeWaypoint x y blocked origin heading =>
    obtain ⟨hx, hy⟩ := Bool.and_eq_true_iff.1 hr
    rw [perform_placeWaypoint]
    exact ⟨growth_placeWaypoint hg off hx hy blocked origin heading, rfl⟩
  | placeObject origin x y heading =>
    obtain ⟨hx, hy⟩ := Bool.and_eq_true_iff.1 hr
    rw [perform_placeObject]
    exact ⟨growth_placeObject hg off hx hy origin heading, rfl⟩
  | create x y blocked hasObject => cases hr
  | connect a heading b => cases hr
  | configure config => cases hr
  | get id => cases hr
  | nearby x y => cases hr
  | isFrontier id => cases hr
  | pathToFrontier id => cases hr
  | pathToObject id => cases hr

theorem growth_run (hg : g.store.WellFormed) (off : g.config.smoothing = false)
    {session : List (Request K)} (hs : ∀ r ∈ session, r.isFinitePlacement = true) :
    ReflTransGen (Growth g.config.threshold) g.store (run g session).store ∧
      (run g session).config = g.config := by
  -- The threshold of each step is read from the graph, so the configuration is carried along.
  induction session generalizing g with
  | nil => exact ⟨.refl, rfl⟩
  | cons r rest ih =>
    obtain ⟨first, config⟩ := growth_perform hg off (hs r (by simp))
    have later := ih (hg.changes (changes_perform r hg)) (by rw [config]; exact off)
      fun q hq => hs q (by simp [hq])
    rw [config] at later
    exact ⟨.head first later.1, later.2⟩

/-! ## Sample reports -/

/-- A report of a spot on the first axis, reached in heading east. -/
def spot (x : Float) (origin : Json) : Request Float :=
  .placeWaypoint (.ok x) (.ok 0.0) (.ok (.replicate false)) origin (.ok .east)

/-- A report of an object on the first axis, seen from the first waypoint. -/
def sighting (x : Float) (heading : Heading) : Request Float :=
  .placeObject (.int 0) (.ok x) (.ok 0.0) (.ok heading)

end Request

end WaypointMap
