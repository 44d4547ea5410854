import WaypointMap.Proofs.Graph.Growth

/-!
# How far waypoints are apart

While positions are not smoothed, no spot is added within the threshold of an older waypoint of
whatever kind. Objects are less far apart: an object close to an older one is added where a
waypoint without an object is nearer still.
-/

namespace WaypointMap

open Relation (ReflTransGen)

variable {K : Type} [Scalar K]

/-- Whether the squared distance of two waypoints is not below a limit, in either direction. -/
def Waypoint.Apart (limit : K) (w v : Waypoint K) : Prop :=
  ¬ w.squaredDistanceTo v.x v.y < limit ∧ ¬ v.squaredDistanceTo w.x w.y < limit

theorem Waypoint.apart_of_not_lt [LawfulDistance K] {limit : K} {w v : Waypoint K}
    (h : ¬ w.squaredDistanceTo v.x v.y < limit) : w.Apart limit v :=
  ⟨h, by rwa [← squaredDistanceTo_comm]⟩

namespace Store

/-- Whether a waypoint `k` without an object keeps `i` from being the nearest to a point: it is
nearer, or not farther and older. -/
def Masks (s : Store K) (x y : K) (k i : Nat) : Prop :=
  ∃ u w, s.bare k = some u ∧ s.bare i = some w ∧ u.hasObject = false ∧
    (u.squaredDistanceTo x y < w.squaredDistanceTo x y ∨
      k < i ∧ ¬ w.squaredDistanceTo x y < u.squaredDistanceTo x y)

/-- What runs of placements keep, as long as positions are not smoothed. -/
structure Dispersed (threshold : K) (s : Store K) : Prop where
  finite : s.IsFinite
  spots : ∀ {i j : Nat} {w v : Waypoint K}, i < j → s.bare i = some w → s.bare j = some v →
    v.hasObject = false → w.Apart (Scalar.square threshold) v
  objects : ∀ {i j : Nat} {w v : Waypoint K}, i < j → s.bare i = some w → s.bare j = some v →
    w.hasObject = true → v.hasObject = true →
    w.Apart (Scalar.square threshold) v ∨ ∃ k < j, s.Masks v.x v.y k i

variable {s t : Store K} {threshold : K}

theorem dispersed_empty (threshold : K) : Dispersed threshold (.empty : Store K) where
  finite := isFinite_empty
  spots _ hw := absurd (lt_size_of_bare hw) (Nat.not_lt_zero _)
  objects _ hw := absurd (lt_size_of_bare hw) (Nat.not_lt_zero _)

theorem Growth.masks (h : Growth threshold s t) {x y : K} {k i : Nat} (hm : s.Masks x y k i) :
    t.Masks x y k i := by
  obtain ⟨u, w, hu, hw, rest⟩ := hm
  exact ⟨u, w, h.bare hu, h.bare hw, rest⟩

section Admission

variable [LawfulDistance K] {w v : Waypoint K} {i : Nat}

theorem Admits.apart (h : s.Admits threshold v) (hs : s.IsFinite) (hv : v.hasObject = false)
    (hw : s.bare i = some w) : w.Apart (Scalar.square threshold) v := by
  have numbers := hs.numbers h.finite.1 h.finite.2
  apply Waypoint.apart_of_not_lt
  intro near
  obtain ⟨k, u, found, -⟩ := exists_nearestWithin numbers hw near
  rw [h.spot hv] at found
  cases found

theorem Admits.apart_or_masks (h : s.Admits threshold v) (hs : s.IsFinite)
    (hv : v.hasObject = true) (hw : s.bare i = some w) (object : w.hasObject = true) :
    w.Apart (Scalar.square threshold) v ∨ ∃ k < s.size, s.Masks v.x v.y k i := by
  have numbers := hs.numbers h.finite.1 h.finite.2
  by_cases near : w.squaredDistanceTo v.x v.y < Scalar.square threshold
  · -- The nearest waypoint is none with an object, so it is another than `i`.
    obtain ⟨k, u, found, hu, -, least, first⟩ := exists_nearestWithin numbers hw near
    have bare : u.hasObject = false := by
      rw [← isObject_of_bare hu]
      exact h.object hv found
    refine .inr ⟨k, lt_size_of_bare hu, u, w, hu, hw, bare, ?_⟩
    rcases Nat.lt_trichotomy k i with older | rfl | younger
    · exact .inr ⟨older, least⟩
    · cases hu.symm.trans hw
      rw [object] at bare
      cases bare
    · exact .inl (first younger)
  · exact .inl (Waypoint.apart_of_not_lt near)

theorem Dispersed.growth (h : Dispersed threshold s) (step : Growth threshold s t) :
    Dispersed threshold t where
  finite := step.isFinite h.finite
  spots := by
    intro i j w v hij hw hv spot
    cases step with
    | same same =>
      rw [same] at hw hv
      exact h.spots hij hw hv spot
    | added admitted added =>
      rw [added] at hw hv
      split at hv
      · next last =>
        cases hv
        rw [if_neg (by omega)] at hw
        exact admitted.apart h.finite spot hw
      · rw [if_neg (by have := lt_size_of_bare hv; omega)] at hw
        exact h.spots hij hw hv spot
  objects := by
    intro i j w v hij hw hv object object'
    have older : s.bare i = some w → s.bare j = some v →
        w.Apart (Scalar.square threshold) v ∨ ∃ k < j, t.Masks v.x v.y k i := fun hw hv =>
      (h.objects hij hw hv object object').imp_right fun ⟨k, hk, masks⟩ =>
        ⟨k, hk, step.masks masks⟩
    cases id step with
    | same same =>
      rw [same] at hw hv
      exact older hw hv
    | added admitted added =>
      rw [added] at hw hv
      split at hv
      · next last =>
        cases hv
        rw [if_neg (by omega)] at hw
        refine (admitted.apart_or_masks h.finite object' hw object).imp_right ?_
        rintro ⟨k, hk, masks⟩
        exact ⟨k, last ▸ hk, step.masks masks⟩
      · rw [if_neg (by have := lt_size_of_bare hv; omega)] at hw
        exact older hw hv

theorem Dispersed.growths (h : Dispersed threshold s)
    (steps : ReflTransGen (Growth threshold) s t) : Dispersed threshold t := by
  induction steps with
  | refl => exact h
  | tail _ last ih => exact ih.growth last

end Admission

end Store

namespace Request

open Store

variable [LawfulDistance K] {config : Config K} {session : List (Request K)}

theorem dispersed_run (off : config.smoothing = false)
    (hs : ∀ r ∈ session, r.isFinitePlacement = true) :
    Dispersed config.threshold (run (.empty config) session).store :=
  (dispersed_empty config.threshold).growths
    (growth_run (g := .empty config) wellFormed_empty off hs).1

/-- While positions are not smoothed, a waypoint without an object is not within the threshold
of any older waypoint, after every run of placements at finite spots. -/
theorem spot_apart (off : config.smoothing = false)
    (hs : ∀ r ∈ session, r.isFinitePlacement = true) :
    let s := (run (.empty config) session).store
    ∀ (i j : Nat) (w v : Waypoint K), i < j → s.waypoints[i]? = some w →
      s.waypoints[j]? = some v → v.hasObject = false →
      w.Apart (Scalar.square config.threshold) v := by
  intro s i j w v hij hw hv spot
  have apart : w.bare.Apart _ v.bare :=
    (dispersed_run off hs).spots hij (bare_of_getElem? hw) (bare_of_getElem? hv) spot
  exact apart

/-- Two spots, an object close to the first, and the second reported once more. -/
def walk : List (Request Float) :=
  [spot 0.0 .null, sighting 0.05 .north, spot 0.3 (.int 0), spot 0.32 (.int 0)]

theorem spot_apart_walk :
    let s := (run (.empty .default) walk).store
    let w : Waypoint Float := ⟨1, 0.05, 0.0, ⟨.blocked, .blocked, .leadsTo 0, .blocked⟩, true⟩
    let v : Waypoint Float := ⟨2, 0.3, 0.0, ⟨.unknown, .unknown, .unknown, .leadsTo 0⟩, false⟩
    s.size = 3 ∧ s.waypoints[1]? = some w ∧ s.waypoints[2]? = some v ∧
      w.Apart (Scalar.square 0.1) v := by
  intro s w v
  have hs : ∀ r ∈ walk, r.isFinitePlacement = true := by decide +kernel
  have hw : s.waypoints[1]? = some w := by decide +kernel
  have hv : s.waypoints[2]? = some v := by decide +kernel
  have off : (Config.default : Config Float).smoothing = false := rfl
  exact ⟨by decide +kernel, hw, hv, spot_apart off hs 1 2 w v (by decide) hw hv rfl⟩

/-- While positions are not smoothed, an object is not within the threshold of an older object,
unless a waypoint without an object masks that one: it is older than the younger object, and
comes before the older object when the nearest to the younger one is looked for. -/
theorem object_apart_or_masked (off : config.smoothing = false)
    (hs : ∀ r ∈ session, r.isFinitePlacement = true) :
    let s := (run (.empty config) session).store
    ∀ (i j : Nat) (w v : Waypoint K), i < j → s.waypoints[i]? = some w →
      s.waypoints[j]? = some v → w.hasObject = true → v.hasObject = true →
      w.Apart (Scalar.square config.threshold) v ∨ ∃ k < j, s.Masks v.x v.y k i := by
  intro s i j w v hij hw hv object object'
  have apart : w.bare.Apart _ v.bare ∨ ∃ k < j, s.Masks v.bare.x v.bare.y k i :=
    (dispersed_run off hs).objects hij (bare_of_getElem? hw) (bare_of_getElem? hv) object object'
  exact apart

/-- A spot and two objects close to it. The second object is nearer to the spot than to the
first. -/
def crowd : List (Request Float) :=
  [spot 0.0 .null, sighting 0.05 .north, sighting 0.02 .east]

theorem object_apart_or_masked_crowd :
    let s := (run (.empty .default) crowd).store
    let w : Waypoint Float := ⟨1, 0.05, 0.0, ⟨.blocked, .blocked, .leadsTo 0, .blocked⟩, true⟩
    let v : Waypoint Float := ⟨2, 0.02, 0.0, ⟨.blocked, .blocked, .blocked, .leadsTo 0⟩, true⟩
    s.waypoints[1]? = some w ∧ s.waypoints[2]? = some v ∧
      (w.Apart (Scalar.square 0.1) v ∨ ∃ k < 2, s.Masks v.x v.y k 1) := by
  intro s w v
  have hs : ∀ r ∈ crowd, r.isFinitePlacement = true := by decide +kernel
  have hw : s.waypoints[1]? = some w := by decide +kernel
  have hv : s.waypoints[2]? = some v := by decide +kernel
  have off : (Config.default : Config Float).smoothing = false := rfl
  exact ⟨hw, hv, object_apart_or_masked off hs 1 2 w v (by decide) hw hv rfl rfl⟩

/-- Both objects are added, though they are within the threshold of each other. -/
theorem objects_close_crowd :
    let s := (run (.empty .default) crowd).store
    let w : Waypoint Float := ⟨1, 0.05, 0.0, ⟨.blocked, .blocked, .leadsTo 0, .blocked⟩, true⟩
    let v : Waypoint Float := ⟨2, 0.02, 0.0, ⟨.blocked, .blocked, .blocked, .leadsTo 0⟩, true⟩
    (∀ r ∈ crowd, r.isFinitePlacement = true) ∧ s.waypoints[1]? = some w ∧
      s.waypoints[2]? = some v ∧ w.squaredDistanceTo v.x v.y < Scalar.square 0.1 := by
  decide +kernel

end Request

end WaypointMap
