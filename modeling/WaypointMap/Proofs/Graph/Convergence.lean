import WaypointMap.Proofs.Graph.Growth
import WaypointMap.Proofs.Store.Blend

/-!
# A spot reported again and again

While positions are smoothed, a report moves its waypoint towards the reported point. In exact
arithmetic three tenths of the way are left. So the waypoint stays the nearest to the point and
within the threshold, the next report comes to it as well, and it nears the point geometrically.
-/

namespace WaypointMap

namespace Store

section Move

variable {K : Type} {s : Store K} {i : Nat} {w : Waypoint K}

theorem getElem?_moveTo_self (hw : s.waypoints[i]? = some w) (x y : K) :
    (s.moveTo i x y).waypoints[i]? = some { w with x, y } := by
  rw [moveTo, getElem?_adjust, if_pos rfl, hw, Option.map_some]

theorem getElem?_moveTo_of_ne (s : Store K) (x y : K) {j : Nat} (hj : j ≠ i) :
    (s.moveTo i x y).waypoints[j]? = s.waypoints[j]? := by
  rw [moveTo, getElem?_adjust, if_neg hj.symm]

theorem moveTo_self (hw : s.waypoints[i]? = some w) : s.moveTo i w.x w.y = s := by
  ext j : 1
  by_cases hj : j = i
  · subst hj
    rw [getElem?_moveTo_self hw, hw]
  · exact getElem?_moveTo_of_ne s w.x w.y hj

/-- Only the last of several moves counts. -/
theorem moveTo_moveTo (s : Store K) (i : Nat) (x y a b : K) :
    (s.moveTo i x y).moveTo i a b = s.moveTo i a b := by
  ext j : 1
  simp only [moveTo, getElem?_adjust]
  split
  · rw [Option.map_map]
    rfl
  · rfl

end Move

/-! ## One report in exact arithmetic -/

section Blend

variable {s : Store Rat} {x y threshold : Rat} {i : Nat} {w : Waypoint Rat}

theorem squaredDistanceTo_nonneg (w : Waypoint Rat) (x y : Rat) : 0 ≤ w.squaredDistanceTo x y :=
  add_nonneg (mul_self_nonneg _) (mul_self_nonneg _)

/-- A waypoint that moves towards a point stays the nearest to it. -/
theorem nearestWithin_moveTo_blend (near : s.nearestWithin x y threshold = some i)
    (hw : s.waypoints[i]? = some w) :
    (s.moveTo i (blend w.x x) (blend w.y y)).nearestWithin x y threshold = some i := by
  refine nearestWithin_of_closer near (bare_of_getElem? hw)
    (bare_of_getElem? (getElem?_moveTo_self hw _ _)) (fun j hj => ?_) rfl ?_
  · rw [bare, bare, getElem?_moveTo_of_ne s _ _ hj]
  · have shorter := squaredDistanceTo_blend w x y
    have nonneg := squaredDistanceTo_nonneg w x y
    have closer : 9 / 100 * w.squaredDistanceTo x y ≤ w.squaredDistanceTo x y := by linarith
    exact not_lt.2 (shorter.le.trans closer)

end Blend

end Store

namespace Request

open Store

variable {K : Type} [Scalar K]

/-- What the requests of a session are answered, in order. -/
def results (g : Graph K) : List (Request K) → List (Checked (Answer K))
  | [] => []
  | r :: rest =>
    let outcome := r.perform.run g
    outcome.result :: results outcome.state rest

/-- Whether a request reports a spot at a point. -/
def Reports (x y : K) (r : Request K) : Prop :=
  ∃ blocked origin heading, r = placeWaypoint (.ok x) (.ok y) blocked origin heading

/-- A report near a waypoint moves it, while positions are smoothed. -/
theorem run_perform_of_reports {g : Graph K} {x y : K} {i : Nat} {w : Waypoint K}
    (on : g.config.smoothing = true)
    (near : g.store.nearestWithin x y g.config.threshold = some i)
    (hw : g.store.waypoints[i]? = some w) {r : Request K} (hr : r.Reports x y) :
    r.perform.run g =
      ⟨.ok (.id i), { g with store := g.store.moveTo i (blend w.x x) (blend w.y y) },
        [.visited i]⟩ := by
  obtain ⟨blocked, origin, heading, rfl⟩ := hr
  rw [perform_of_near near, mergePosition_eq hw, if_pos on]

section Repeated

variable {g : Graph Rat} {x y : Rat} {i : Nat} {w : Waypoint Rat} {session : List (Request Rat)}

/-- Each report leaves three tenths of the way to the point. -/
theorem run_reports (on : g.config.smoothing = true)
    (near : g.store.nearestWithin x y g.config.threshold = some i)
    (hw : g.store.waypoints[i]? = some w) (hs : ∀ r ∈ session, r.Reports x y) :
    results g session = .replicate session.length (.ok (.id i)) ∧
      run g session = { g with
        store := g.store.moveTo i (x + (3 / 10) ^ session.length * (w.x - x))
          (y + (3 / 10) ^ session.length * (w.y - y)) } := by
  -- After a report the waypoint is another one, in another graph, but the nearest again.
  induction session generalizing g w with
  | nil =>
    refine ⟨rfl, ?_⟩
    have still : ∀ a b : Rat, a + (3 / 10) ^ 0 * (b - a) = b := fun a b => by ring
    rw [List.length_nil, still, still, moveTo_self hw]
    rfl
  | cons r rest ih =>
    have first := run_perform_of_reports on near hw (hs r List.mem_cons_self)
    have later := ih (g := { g with store := g.store.moveTo i (blend w.x x) (blend w.y y) }) on
      (nearestWithin_moveTo_blend near hw) (getElem?_moveTo_self hw _ _) fun q hq =>
        hs q (List.mem_cons_of_mem _ hq)
    have step : ∀ a b : Rat, a + (3 / 10) ^ rest.length * (blend b a - a) =
        a + (3 / 10) ^ (r :: rest).length * (b - a) := by
      intro a b
      rw [blend_eq, List.length_cons, pow_succ]
      ring
    constructor
    · rw [results, first, later.1]
      rfl
    · change run (r.perform.run g).state rest = _
      rw [first, later.2, moveTo_moveTo, step, step]

/-- While positions are smoothed, a spot near a waypoint may be reported any number of times: every
report comes to this waypoint, whatever else it says, and adds none. In exact arithmetic `k` reports
leave (3/10)^k of the way to the spot, and no other waypoint and no link change. -/
theorem reports_converge (on : g.config.smoothing = true)
    (near : g.store.nearestWithin x y g.config.threshold = some i)
    (hw : g.store.waypoints[i]? = some w) (hs : ∀ r ∈ session, r.Reports x y) :
    let k := session.length
    let t := (run g session).store
    results g session = .replicate k (.ok (.id i)) ∧ (run g session).config = g.config ∧
      t.size = g.store.size ∧
      t.waypoints[i]? =
        some { w with x := x + (3 / 10) ^ k * (w.x - x), y := y + (3 / 10) ^ k * (w.y - y) } ∧
      ∀ j ≠ i, t.waypoints[j]? = g.store.waypoints[j]? := by
  obtain ⟨answers, moved⟩ := run_reports on near hw hs
  dsimp only
  rw [moved]
  exact ⟨answers, rfl, size_moveTo .., getElem?_moveTo_self hw _ _,
    fun j hj => getElem?_moveTo_of_ne g.store _ _ hj⟩

/-- Two waypoints that are equally far from the point between them. -/
def seesaw : Graph Rat where
  store := ⟨#[⟨0, 0, 0, .replicate .unknown, false⟩, ⟨1, 1, 0, .replicate .blocked, true⟩]⟩
  config := ⟨1, true⟩

theorem reports_converge_seesaw :
    let report := fun blocked origin heading =>
      placeWaypoint (.ok (1 / 2 : Rat)) (.ok 0) blocked origin heading
    let session := [report (.ok (.replicate true)) (.int 1) (.ok .east),
      report (.ok (.replicate false)) .null (.error (.unknownHeading .null))]
    let t := (run seesaw session).store
    seesaw.store.nearestWithin (1 / 2) 0 1 = some 0 ∧ (∀ r ∈ session, r.Reports (1 / 2) 0) ∧
      results seesaw session = [.ok (.id 0), .ok (.id 0)] ∧
      t.waypoints[0]? = some ⟨0, 91 / 200, 0, .replicate .unknown, false⟩ ∧
      t.waypoints[1]? = seesaw.store.waypoints[1]? := by
  intro report session t
  have near : seesaw.store.nearestWithin (1 / 2) 0 1 = some 0 := by decide +kernel
  have hs : ∀ r ∈ session, r.Reports (1 / 2) 0 := by
    intro r hr
    rcases List.mem_cons.1 hr with rfl | hr
    · exact ⟨_, _, _, rfl⟩
    · exact ⟨_, _, _, List.mem_singleton.1 hr⟩
  obtain ⟨answers, -, -, moved, kept⟩ := reports_converge (g := seesaw) rfl near rfl hs
  have left : (1 / 2 : Rat) + (3 / 10) ^ 2 * (0 - 1 / 2) = 91 / 200 := by norm_num
  have level : (0 : Rat) + (3 / 10) ^ 2 * (0 - 0) = 0 := by norm_num
  refine ⟨near, hs, answers, ?_, kept 1 (by decide)⟩
  rw [moved]
  exact congrArg₂ (fun x y => some (⟨0, x, y, .replicate .unknown, false⟩ : Waypoint Rat)) left level

end Repeated

end Request

end WaypointMap
