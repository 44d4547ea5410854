import WaypointMap.Proofs.Graph.Convergence
import WaypointMap.Proofs.Graph.Separation

/-!
# How spots approach each other

A spot is never added within the threshold of another, whether positions are smoothed or not. But a
smoothed waypoint moves without regard to the others. So two spots may come within the threshold of
each other later on, and if they do, a report that moved one of them brought them there. In exact
arithmetic one report leaves at least 13/20 of each distance.
-/

namespace WaypointMap

variable {K : Type} [Scalar K]

namespace Store

variable {s t : Store K} {limit : K} {i j k : Nat}

/-- Whether the squared distance of two waypoints of a store is below a limit. -/
def Close (s : Store K) (limit : K) (i j : Nat) : Prop :=
  ∃ w v, s.bare i = some w ∧ s.bare j = some v ∧ w.squaredDistanceTo v.x v.y < limit

theorem Close.congr (close : t.Close limit i j) (hi : t.bare i = s.bare i)
    (hj : t.bare j = s.bare j) : s.Close limit i j := by
  obtain ⟨w, v, hw, hv, near⟩ := close
  exact ⟨w, v, hi.symm.trans hw, hj.symm.trans hv, near⟩

theorem Close.lt_size (close : s.Close limit i j) : i < s.size ∧ j < s.size := by
  obtain ⟨w, v, hw, hv, -⟩ := close
  exact ⟨lt_size_of_bare hw, lt_size_of_bare hv⟩

theorem not_close_empty : ¬ (empty : Store K).Close limit i j := fun close =>
  absurd close.lt_size.1 (Nat.not_lt_zero i)

omit [Scalar K] in
theorem bare_moveTo_of_ne (s : Store K) (x y : K) (ne : i ≠ k) :
    (s.moveTo k x y).bare i = s.bare i := by
  rw [bare, bare, getElem?_moveTo_of_ne s x y ne]

/-- Moving a waypoint brings no others close to each other. -/
theorem Close.of_moveTo_of_ne {x y : K} (hi : i ≠ k) (hj : j ≠ k)
    (close : (s.moveTo k x y).Close limit i j) : s.Close limit i j :=
  close.congr (bare_moveTo_of_ne s x y hi) (bare_moveTo_of_ne s x y hj)

section Lawful

variable [LawfulDistance K]

theorem Close.symm (close : s.Close limit i j) : s.Close limit j i := by
  obtain ⟨w, v, hw, hv, near⟩ := close
  exact ⟨v, w, hv, hw, by rwa [Waypoint.squaredDistanceTo_comm]⟩

/-- A new spot is close to no other. -/
theorem Close.of_added {threshold : K} {w : Waypoint K} (admitted : s.Admits threshold w)
    (finite : s.IsFinite) (spot : w.hasObject = false)
    (added : ∀ i, t.bare i = if i = s.size then some w else s.bare i) (lt : i < j)
    (below : ∀ {d : K}, d < limit → d < Scalar.square threshold) (close : t.Close limit i j) :
    s.Close limit i j := by
  obtain ⟨u, v, hu, hv, near⟩ := close
  rw [added] at hu hv
  split at hv
  · next last =>
    cases hv
    rw [if_neg (by omega)] at hu
    exact absurd (below near) (admitted.apart finite spot hu).1
  · rw [if_neg (by have := lt_size_of_bare hv; omega)] at hu
    exact ⟨u, v, hu, hv, near⟩

end Lawful

theorem IsFinite.moveTo [LawfulBlend K] (finite : s.IsFinite) {w : Waypoint K}
    (hw : s.waypoints[k]? = some w) {x y : K} (hx : Scalar.isFinite x = true)
    (hy : Scalar.isFinite y = true) :
    (s.moveTo k (blend w.x x) (blend w.y y)).IsFinite := by
  intro i v hv
  by_cases moved : i = k
  · subst moved
    rw [bare, getElem?_moveTo_self hw] at hv
    cases hv
    have spot : w.bare.IsFinite := finite (bare_of_getElem? hw)
    exact spot.blend hx hy
  · rw [bare_moveTo_of_ne s _ _ moved] at hv
    exact finite hv

end Store

namespace Request

open Store

/-! ## What one report does -/

/-- Whether a request reports a spot, and a finite one if it tells where it is. -/
def isFiniteSpot : Request K → Bool
  | placeWaypoint x y _ _ _ => isFiniteCoordinate x && isFiniteCoordinate y
  | _ => false

/-- Whether a report moves waypoint `k`: positions are smoothed, and `k` is the nearest to the
spot, within the threshold. -/
def Moves (g : Graph K) (r : Request K) (k : Nat) : Prop :=
  g.config.smoothing = true ∧ ∃ x y w, r.Reports x y ∧
    g.store.nearestWithin x y g.config.threshold = some k ∧ g.store.waypoints[k]? = some w ∧
    r.perform.run g =
      ⟨.ok (.id k), { g with store := g.store.moveTo k (blend w.x x) (blend w.y y) }, [.visited k]⟩

/-- What a report of a spot makes of a graph, links apart: nothing, one more spot, or a move. -/
inductive Advance (g : Graph K) (r : Request K) : Prop where
  | same (h : (r.perform.run g).state.store = g.store)
  | added {w : Waypoint K} (admitted : g.store.Admits g.config.threshold w)
      (spot : w.hasObject = false)
      (h : ∀ i, (r.perform.run g).state.store.bare i =
        if i = g.store.size then some w else g.store.bare i)
  | moved {k : Nat} (moves : r.Moves g k)

variable {g : Graph K} {r : Request K} {i j : Nat}

theorem advance (hg : g.store.WellFormed) [LawfulScalar K] (hr : r.isFiniteSpot = true) :
    r.Advance g ∧ (r.perform.run g).state.config = g.config := by
  cases r with
  | placeWaypoint x y blocked origin heading =>
    obtain ⟨hx, hy⟩ := Bool.and_eq_true_iff.1 hr
    have run := perform_placeWaypoint g x y blocked origin heading
    refine ⟨?_, by rw [run]⟩
    have placed := waypointPlaced hg g.config x y blocked origin heading
    generalize (Store.placeWaypoint g.config x y blocked origin heading).run g.store = outcome
      at placed run
    cases placed with
    | @visited a b k ha hb near =>
      subst ha hb
      by_cases on : g.config.smoothing = true
      · obtain ⟨w, hw⟩ := exists_waypoint (lt_size_of_nearestWithin near)
        have reports : (placeWaypoint (.ok a) (.ok b) blocked origin heading).Reports a b :=
          ⟨_, _, _, rfl⟩
        exact .moved ⟨on, a, b, w, reports, near, hw, run_perform_of_reports on near hw reports⟩
      · refine .same ?_
        rw [run, mergePosition_of_not_smoothing (by simpa using on)]
    | @first a b flags ha hb _ empty =>
      subst ha hb
      have far := nearestWithin_of_size_eq_zero empty a b g.config.threshold
      refine .added (admits_spot hx hy far) rfl fun i => ?_
      rw [run]
      exact bare_push ..
    | @linked a b flags h o ha hb _ _ _ _ far =>
      subst ha hb
      refine .added (admits_spot hx hy far) rfl fun i => ?_
      rw [run]
      exact bare_push_joined ..
    | refused _ => exact .same (by rw [run])
  | placeObject origin x y heading => cases hr
  | create x y blocked hasObject => cases hr
  | connect a heading b => cases hr
  | configure config => cases hr
  | get id => cases hr
  | nearby x y => cases hr
  | isFrontier id => cases hr
  | pathToFrontier id => cases hr
  | pathToObject id => cases hr

/-! ## What brings spots close -/

section Approach

variable [LawfulBlend K]

theorem Advance.isFinite (step : r.Advance g) (hr : r.isFiniteSpot = true)
    (finite : g.store.IsFinite) : (r.perform.run g).state.store.IsFinite := by
  cases step with
  | same h => exact h ▸ finite
  | added admitted _ h => exact Growth.isFinite (.added admitted h) finite
  | moved moves =>
    obtain ⟨-, x, y, w, ⟨_, _, _, rfl⟩, -, hw, run⟩ := moves
    obtain ⟨hx, hy⟩ := Bool.and_eq_true_iff.1 hr
    rw [run]
    exact finite.moveTo hw hx hy

theorem Advance.close (step : r.Advance g) (finite : g.store.IsFinite) (lt : i < j)
    (close : (r.perform.run g).state.store.Close (Scalar.square g.config.threshold) i j) :
    g.store.Close (Scalar.square g.config.threshold) i j ∨
      (i < g.store.size ∧ j < g.store.size) ∧ (r.Moves g i ∨ r.Moves g j) := by
  cases step with
  | same h => exact .inl (h ▸ close)
  | added admitted spot h => exact .inl (close.of_added admitted finite spot h lt id)
  | @moved k moves =>
    by_cases hi : i = k ∨ j = k
    · obtain ⟨-, x, y, w, -, -, -, run⟩ := id moves
      have size := close.lt_size
      rw [run, size_moveTo] at size
      rcases hi with rfl | rfl
      · exact .inr ⟨size, .inl moves⟩
      · exact .inr ⟨size, .inr moves⟩
    · obtain ⟨-, x, y, w, -, -, -, run⟩ := moves
      rw [not_or] at hi
      rw [run] at close
      exact .inl (close.of_moveTo_of_ne hi.1 hi.2)

/-- Whether a report brings two waypoints of the map within a limit of each other, by moving one of
them. -/
structure Approaches (limit : K) (g : Graph K) (r : Request K) (i j : Nat) : Prop where
  known : i < g.store.size ∧ j < g.store.size
  moves : r.Moves g i ∨ r.Moves g j
  apart : ¬ g.store.Close limit i j
  close : (r.perform.run g).state.store.Close limit i j

/-- Two waypoints that were not close before a session of reports were brought close by one. -/
theorem close_run (hg : g.store.WellFormed) (finite : g.store.IsFinite)
    {session : List (Request K)} (hs : ∀ r ∈ session, r.isFiniteSpot = true) (lt : i < j)
    (close : (run g session).store.Close (Scalar.square g.config.threshold) i j) :
    g.store.Close (Scalar.square g.config.threshold) i j ∨
      ∃ earlier r later, session = earlier ++ r :: later ∧
        r.Approaches (Scalar.square g.config.threshold) (run g earlier) i j := by
  -- Reports leave the configuration as it is, so the limit is one for the whole session.
  induction session generalizing g with
  | nil => exact .inl close
  | cons r rest ih =>
    by_cases before : g.store.Close (Scalar.square g.config.threshold) i j
    · exact .inl before
    have hr := hs r (by simp)
    obtain ⟨step, config⟩ := advance hg hr
    have later := ih (hg.changes (changes_perform r hg)) (step.isFinite hr finite)
      fun q hq => hs q (by simp [hq])
    rw [config] at later
    rcases later close with now | ⟨between, q, last, rfl, approaches⟩
    · obtain ⟨known, moves⟩ := (step.close finite lt now).resolve_left before
      exact .inr ⟨[], r, rest, rfl, known, moves, before, now⟩
    · exact .inr ⟨r :: between, q, last, rfl, approaches⟩

/-- On a map made by reports of finite spots, two waypoints are not within the threshold of each
other, unless one of the reports brought them there. It found both of them on the map and apart,
and moved one of them, which only happens while positions are smoothed. -/
theorem apart_or_approached (config : Config K) {session : List (Request K)}
    (hs : ∀ r ∈ session, r.isFiniteSpot = true) :
    let limit := Scalar.square config.threshold
    let s := (run (.empty config) session).store
    ∀ (i j : Nat) (w v : Waypoint K), i < j → s.waypoints[i]? = some w →
      s.waypoints[j]? = some v →
      w.Apart limit v ∨ ∃ earlier r later, session = earlier ++ r :: later ∧
        r.Approaches limit (run (.empty config) earlier) i j := by
  intro limit s i j w v lt hw hv
  by_cases near : w.squaredDistanceTo v.x v.y < limit
  · have close : s.Close limit i j :=
      ⟨w.bare, v.bare, bare_of_getElem? hw, bare_of_getElem? hv, near⟩
    exact .inr ((close_run (g := .empty config) wellFormed_empty isFinite_empty hs lt
      close).resolve_left not_close_empty)
  · exact .inl (Waypoint.apart_of_not_lt near)

end Approach

/-- Two spots at the threshold, and a report between them that counts as the second. -/
def nudge : List (Request Float) := [spot 0.0 .null, spot 1.0 (.int 0), spot 0.9 .null]

/-- The second spot is moved within the threshold of the first. -/
theorem spots_close_nudge :
    let s := (run (.empty ⟨1.0, true⟩) nudge).store
    let w : Waypoint Float := ⟨0, 0.0, 0.0, ⟨.unknown, .leadsTo 1, .unknown, .unknown⟩, false⟩
    let v : Waypoint Float :=
      ⟨1, 0.3 * 1.0 + 0.7 * 0.9, 0.0, ⟨.unknown, .unknown, .unknown, .leadsTo 0⟩, false⟩
    (∀ r ∈ nudge, r.isFiniteSpot = true) ∧ s.waypoints[0]? = some w ∧ s.waypoints[1]? = some v ∧
      w.squaredDistanceTo v.x v.y < Scalar.square 1.0 := by
  decide +kernel

theorem apart_or_approached_nudge :
    let s := (run (.empty ⟨1.0, true⟩) nudge).store
    let w : Waypoint Float := ⟨0, 0.0, 0.0, ⟨.unknown, .leadsTo 1, .unknown, .unknown⟩, false⟩
    let v : Waypoint Float :=
      ⟨1, 0.3 * 1.0 + 0.7 * 0.9, 0.0, ⟨.unknown, .unknown, .unknown, .leadsTo 0⟩, false⟩
    (∀ r ∈ nudge, r.isFiniteSpot = true) ∧ s.waypoints[0]? = some w ∧ s.waypoints[1]? = some v ∧
      ¬ w.Apart (Scalar.square 1.0) v ∧ ∃ earlier r later, nudge = earlier ++ r :: later ∧
        r.Approaches (Scalar.square 1.0) (run (.empty ⟨1.0, true⟩) earlier) 0 1 := by
  intro s w v
  have hs : ∀ r ∈ nudge, r.isFiniteSpot = true := by decide +kernel
  have hw : s.waypoints[0]? = some w := by decide +kernel
  have hv : s.waypoints[1]? = some v := by decide +kernel
  have close : ¬ w.Apart (Scalar.square 1.0) v := fun apart => apart.1 (by decide +kernel)
  exact ⟨hs, hw, hv, close,
    (apart_or_approached ⟨1.0, true⟩ hs 0 1 w v (by decide) hw hv).resolve_left close⟩

end Request

/-! ## How close, in exact arithmetic -/

namespace Store

variable {s : Store Rat} {limit limit' : Rat} {i j : Nat} {w : Waypoint Rat} {x y : Rat}

/-- A waypoint that moves towards a point keeps 13/20 of its distance to every waypoint that is not
nearer to the point. -/
theorem le_squaredDistanceTo_blend {v : Waypoint Rat}
    (nearest : w.squaredDistanceTo x y ≤ v.squaredDistanceTo x y) :
    (13 / 20) ^ 2 * w.squaredDistanceTo v.x v.y ≤
      ({ w with x := blend w.x x, y := blend w.y y } : Waypoint Rat).squaredDistanceTo v.x v.y := by
  simp only [Waypoint.squaredDistanceTo, Scalar.square, blend_eq] at nearest ⊢
  -- The worst case has the point half way between the two waypoints.
  have worst := add_nonneg (sq_nonneg (w.x - x + (v.x - x))) (sq_nonneg (w.y - y + (v.y - y)))
  linarith

theorem Close.mono (close : s.Close limit i j) (le : limit ≤ limit') : s.Close limit' i j := by
  obtain ⟨w, v, hw, hv, near⟩ := close
  exact ⟨w, v, hw, hv, near.trans_le le⟩

theorem Close.of_moveTo {threshold : Rat} (near : s.nearestWithin x y threshold = some i)
    (hw : s.waypoints[i]? = some w) (ne : j ≠ i)
    (close : (s.moveTo i (blend w.x x) (blend w.y y)).Close ((13 / 20) ^ 2 * limit) i j) :
    s.Close limit i j := by
  obtain ⟨u, v, hu, hv, short⟩ := close
  rw [bare, getElem?_moveTo_self hw] at hu
  cases hu
  rw [bare_moveTo_of_ne s _ _ ne] at hv
  have entry : (s.squaredDistances x y)[j]? = some (v.squaredDistanceTo x y) := by
    rw [getElem?_squaredDistances, hv, Option.map_some]
  have least := (firstLeast_of_nearestWithin near (bare_of_getElem? hw)).1.least entry
  have kept : (13 / 20) ^ 2 * w.squaredDistanceTo v.x v.y < (13 / 20) ^ 2 * limit :=
    (le_squaredDistanceTo_blend (not_lt.1 least)).trans_lt short
  exact ⟨w.bare, v, bare_of_getElem? hw, hv, lt_of_mul_lt_mul_left kept (by norm_num)⟩

end Store

namespace Request

variable {g : Graph Rat} {r : Request Rat} {limit : Rat} {i j : Nat}

theorem Advance.close_exact (step : r.Advance g) (finite : g.store.IsFinite) (nonneg : 0 ≤ limit)
    (le : limit ≤ Scalar.square g.config.threshold) (lt : i < j)
    (close : (r.perform.run g).state.store.Close ((13 / 20) ^ 2 * limit) i j) :
    g.store.Close limit i j := by
  have smaller : (13 / 20) ^ 2 * limit ≤ limit := by linarith
  cases step with
  | same h => exact (h ▸ close).mono smaller
  | added admitted spot h =>
    exact (close.mono smaller).of_added admitted finite spot h lt fun below => below.trans_le le
  | @moved k moves =>
    obtain ⟨-, x, y, w, -, near, hw, run⟩ := moves
    rw [run] at close
    by_cases hi : i = k
    · subst hi
      exact close.of_moveTo near hw lt.ne'
    by_cases hj : j = k
    · subst hj
      exact (close.symm.of_moveTo near hw lt.ne).symm
    · exact (close.of_moveTo_of_ne hi hj).mono smaller

theorem close_run_exact (hg : g.store.WellFormed) (finite : g.store.IsFinite)
    {session : List (Request Rat)} (hs : ∀ r ∈ session, r.isFiniteSpot = true) (lt : i < j)
    (nonneg : 0 ≤ limit) (le : limit ≤ Scalar.square g.config.threshold)
    (close : (run g session).store.Close (((13 / 20) ^ 2) ^ session.length * limit) i j) :
    g.store.Close limit i j := by
  induction session generalizing g limit with
  | nil =>
    rw [List.length_nil, pow_zero, one_mul] at close
    exact close
  | cons r rest ih =>
    have hr := hs r (by simp)
    obtain ⟨step, config⟩ := advance hg hr
    have smaller : (13 / 20) ^ 2 * limit ≤ limit := by linarith
    rw [List.length_cons, pow_succ, mul_assoc] at close
    have later := ih (hg.changes (changes_perform r hg)) (step.isFinite hr finite)
      (fun q hq => hs q (by simp [hq])) (mul_nonneg (by norm_num) nonneg)
      (by rw [config]; exact smaller.trans le) close
    exact step.close_exact finite nonneg le lt later

/-- In exact arithmetic, `n` reports of spots leave at least (13/20)^n of the threshold between any
two of them. So spots never come to lie in one place. -/
theorem spots_keep_distance (config : Config Rat) {session : List (Request Rat)}
    (hs : ∀ r ∈ session, r.isFiniteSpot = true) :
    let s := (run (.empty config) session).store
    ∀ (i j : Nat) (w v : Waypoint Rat), i < j → s.waypoints[i]? = some w →
      s.waypoints[j]? = some v →
      ((13 / 20) ^ session.length * config.threshold) ^ 2 ≤ w.squaredDistanceTo v.x v.y := by
  intro s i j w v lt hw hv
  have power : ((13 / 20) ^ session.length * config.threshold) ^ 2 =
      ((13 / 20) ^ 2) ^ session.length * Scalar.square config.threshold := by
    rw [mul_pow, ← pow_mul, mul_comm session.length, pow_mul, sq config.threshold]
    rfl
  by_contra near
  rw [power, not_le] at near
  have close : s.Close (((13 / 20) ^ 2) ^ session.length * Scalar.square config.threshold) i j :=
    ⟨w.bare, v.bare, Store.bare_of_getElem? hw, Store.bare_of_getElem? hv, near⟩
  exact Store.not_close_empty (close_run_exact (g := .empty config) Store.wellFormed_empty
    Store.isFinite_empty hs lt (mul_self_nonneg _) le_rfl close)

end Request

end WaypointMap
