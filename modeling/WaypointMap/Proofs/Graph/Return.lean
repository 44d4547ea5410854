import WaypointMap.Proofs.Graph.Effect

/-!
# Coming back to a waypoint

A report of the very spot of a waypoint counts as this waypoint, or as an older one at no distance
from it, if the scan can see it. The scan is blind in two cases: the square of the threshold is
zero, although the threshold is not, or some waypoint of the map has a coordinate that is not a
number. Then the report makes one more waypoint in the same place.
-/

namespace WaypointMap

variable {K : Type} [Scalar K]

namespace Store

variable {s : Store K} {x y threshold : K}

/-! ## What the scan does not see -/

theorem nearestWithin_of_not_positive [LawfulScalar K]
    (zero : ¬ (0.0 : K) < Scalar.square threshold) : s.nearestWithin x y threshold = none := by
  cases found : s.nearestWithin x y threshold with
  | none => rfl
  | some k =>
    obtain ⟨w, -, near⟩ := bare_of_nearestWithin found
    have number : Scalar.isNaN (0.0 : K) = false :=
      LawfulScalar.isNaN_of_isFinite LawfulScalar.isFinite_zero
    rcases LawfulScalar.lt_or_lt near number with below | above
    · exact absurd below (Waypoint.not_squaredDistanceTo_lt_zero w x y)
    · exact absurd above zero

variable [LawfulNumber K] (hx : Scalar.isFinite x = true) (hy : Scalar.isFinite y = true)

include hx hy

theorem nearestWithin_of_not_isNumber {v : Waypoint K} (hv : v ∈ s.waypoints)
    (special : ¬ v.IsNumber) : s.nearestWithin x y threshold = none := by
  obtain ⟨j, hj⟩ := Array.getElem?_of_mem hv
  refine nearestWithin_of_isNaN (mem_squaredDistances_iff.2 ⟨j, v, hj, rfl⟩) ?_
  rw [← Waypoint.isNaN_squaredDistanceTo_iff hx hy] at special
  simpa using special

theorem numbers_of_isNumber (numbers : ∀ v ∈ s.waypoints, v.IsNumber) :
    ∀ d ∈ s.squaredDistances x y, Scalar.isNaN d = false := by
  intro d hd
  obtain ⟨j, v, hv, rfl⟩ := mem_squaredDistances_iff.1 hd
  exact (Waypoint.isNaN_squaredDistanceTo_iff hx hy).2 (numbers v (Array.mem_of_getElem? hv))

omit hx hy

/-- Otherwise a waypoint at hand is found, or an older one at no distance from it. -/
theorem exists_nearestWithin_self {i : Nat} {w : Waypoint K} (hw : s.waypoints[i]? = some w)
    (finite : w.IsFinite) (positive : (0.0 : K) < Scalar.square threshold)
    (numbers : ∀ v ∈ s.waypoints, v.IsNumber) :
    ∃ k v, s.nearestWithin w.x w.y threshold = some k ∧ k ≤ i ∧ s.waypoints[k]? = some v ∧
      ¬ 0.0 < v.squaredDistanceTo w.x w.y := by
  have self : w.bare.squaredDistanceTo w.x w.y = 0.0 := Waypoint.squaredDistanceTo_self finite
  obtain ⟨k, u, found, hu, -, least, younger⟩ := exists_nearestWithin
    (numbers_of_isNumber finite.1 finite.2 numbers) (bare_of_getElem? hw) (self ▸ positive)
  obtain ⟨v, hv, rfl⟩ := Option.map_eq_some_iff.1 hu
  rw [self] at least younger
  refine ⟨k, v, found, ?_, hv, least⟩
  by_contra after
  exact Waypoint.not_squaredDistanceTo_lt_zero v.bare _ _ (younger (by omega))

end Store

namespace Graph

variable [LawfulNumber K] {g : Graph K} {i : Nat} {w : Waypoint K}

/-- A report of the very spot of a waypoint creates nothing, if the square of the threshold is
positive and all coordinates on the map are numbers: it counts as this waypoint, or as an older one
at no distance from it, whatever else it says. In every other case it makes one more waypoint, as
far as the rest of it is in order. -/
theorem return_to_waypoint (hg : g.store.Reachable) (hw : g.store.waypoints[i]? = some w)
    (finite : w.IsFinite) :
    let n := g.store.size
    let report := fun blocked origin heading =>
      (placeWaypoint (.ok w.x) (.ok w.y) blocked origin heading).run g
    (0.0 < Scalar.square g.config.threshold → (∀ v ∈ g.store.waypoints, v.IsNumber) →
      ∃ v, v.id ≤ i ∧ g.store.waypoints[v.id]? = some v ∧
        ¬ 0.0 < v.squaredDistanceTo w.x w.y ∧ (g.merged v w.x w.y).store.size = n ∧
        ∀ blocked origin heading, report blocked origin heading =
          ⟨.ok v.id, g.merged v w.x w.y, [.visited v.id]⟩) ∧
    (¬ 0.0 < Scalar.square g.config.threshold ∨ (∃ v ∈ g.store.waypoints, ¬ v.IsNumber) →
      ∀ (flags : Compass Bool) (o : Nat) (h : Heading), o < n →
        (report (.ok flags) (.int o) (.ok h)).result = .ok n ∧
        (report (.ok flags) (.int o) (.ok h)).state.store.size = n + 1) := by
  have wellFormed := hg.wellFormed
  dsimp only
  constructor
  · intro positive numbers
    obtain ⟨k, v, found, older, hv, level⟩ :=
      Store.exists_nearestWithin_self hw finite positive numbers
    obtain rfl := wellFormed.ids hv
    have size : (g.merged v w.x w.y).store.size = g.store.size := by
      rw [← mergePosition_eq_merged hv, Store.size_mergePosition]
    refine ⟨v, older, hv, level, size, fun blocked origin heading => ?_⟩
    rw [run_placeWaypoint, Store.run_placeWaypoint_of_near found, mergePosition_eq_merged hv,
      ← config_merged v w.x w.y]
  · intro blind flags o h lt
    have far : g.store.nearestWithin w.x w.y g.config.threshold = none := by
      rcases blind with zero | ⟨v, hv, special⟩
      · exact Store.nearestWithin_of_not_positive zero
      · exact Store.nearestWithin_of_not_isNumber finite.1 finite.2 hv special
    rw [run_placeWaypoint, Store.run_placeWaypoint_of_far wellFormed (Nat.ne_zero_of_lt lt) far,
      Store.resolve_eq_ok_iff.2 ⟨rfl, lt⟩]
    refine ⟨rfl, ?_⟩
    dsimp only
    rw [Store.size_joined, Store.size_push]

/-- The spot of the second of two waypoints, and the one spot of a map whose threshold has a square
of zero. -/
theorem return_to_waypoint_patrol :
    let g := Request.run (.empty .default) [Request.spot 0.0 .null, .spot 1.0 (.int 0)]
    let w : Waypoint Float := ⟨1, 1.0, 0.0, ⟨.unknown, .unknown, .unknown, .leadsTo 0⟩, false⟩
    let narrow := Request.run (.empty ⟨1e-200, false⟩) [Request.spot 0.0 .null]
    let u : Waypoint Float := ⟨0, 0.0, 0.0, .replicate .unknown, false⟩
    let report := fun (x : Float) blocked origin heading =>
      placeWaypoint (.ok x) (.ok 0.0) blocked origin heading
    g.store.waypoints[1]? = some w ∧ w.IsFinite ∧
      0.0 < Scalar.square g.config.threshold ∧ (∀ v ∈ g.store.waypoints, v.IsNumber) ∧
      (∃ v : Waypoint Float, v.id ≤ 1 ∧ (g.merged v 1.0 0.0).store.size = 2 ∧
        ((report 1.0 (.error (.unknownHeading .null)) .null
          (.error (.unknownHeading .null))).run g).result = .ok v.id) ∧
      narrow.store.waypoints[0]? = some u ∧ u.IsFinite ∧
      ¬ 0.0 < Scalar.square narrow.config.threshold ∧
      ((report 0.0 (.ok (.replicate true)) (.int 0) (.ok .north)).run narrow).result =
        .ok narrow.store.size := by
  intro g w narrow u report
  have hw : g.store.waypoints[1]? = some w := by decide +kernel
  have finite : w.IsFinite := by decide +kernel
  have positive : 0.0 < Scalar.square g.config.threshold := by decide +kernel
  have numbers : ∀ v ∈ g.store.waypoints, v.IsNumber := by decide +kernel
  have size : g.store.size = 2 := by decide +kernel
  obtain ⟨v, older, -, -, kept, found⟩ :=
    (return_to_waypoint ⟨_, _, rfl⟩ hw finite).1 positive numbers
  have hu : narrow.store.waypoints[0]? = some u := by decide +kernel
  have finite' : u.IsFinite := by decide +kernel
  have zero : ¬ 0.0 < Scalar.square narrow.config.threshold := by decide +kernel
  have missed := (return_to_waypoint ⟨_, _, rfl⟩ hu finite').2 (.inl zero) (.replicate true) 0
    .north (by decide +kernel)
  exact ⟨hw, finite, positive, numbers, ⟨v, older, kept.trans size,
    congrArg Outcome.result (found _ _ _)⟩, hu, finite', zero, missed.1⟩

/-- A spot is missed under a threshold that is accepted though its square is zero, and on a map
with one coordinate that is not a number. -/
theorem return_to_waypoint_missed :
    let nowhere : Request Float := .placeWaypoint (.ok (0.0 / 0.0)) (.ok 0.0)
      (.ok (.replicate false)) (.int 0) (.ok .north)
    let narrow := Request.run (.empty ⟨1e-200, false⟩) [.spot 0.0 .null]
    let marred := Request.run (.empty .default) [.spot 0.0 .null, nowhere]
    let w : Waypoint Float := ⟨0, 0.0, 0.0, .replicate .unknown, false⟩
    let again := placeWaypoint (.ok w.x) (.ok w.y) (.ok (.replicate false)) (.int 0) (.ok .east)
    (Config.make (.decimal 1e-200) (.bool false)).toOption.map (·.threshold) = some 1e-200 ∧
      w.IsFinite ∧ narrow.store.bare 0 = some w ∧ marred.store.bare 0 = some w ∧
      (again.run narrow).result.toOption = some narrow.store.size ∧
      (again.run narrow).state.store.size = narrow.store.size + 1 ∧
      (again.run marred).result.toOption = some marred.store.size ∧
      (again.run marred).state.store.size = marred.store.size + 1 := by
  decide +kernel

end Graph

end WaypointMap
