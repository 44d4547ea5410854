import WaypointMap.Proofs.Graph.Explored
import WaypointMap.Proofs.Graph.Separation
import WaypointMap.Proofs.Search.Tie

/-!
# Frontiers as starts

Only spots have headings to explore, and while positions are not smoothed, no spot is within the
threshold of an older waypoint. Links that cost nothing span next to no distance, far less than
any sensible threshold, however many follow each other. So they lead from no frontier to another,
and a frontier is its own answer.
-/

namespace WaypointMap

variable {K : Type}

/-! ## Links that cost nothing -/

section Near

open Double

/-- The place of a coordinate of a waypoint. -/
def Store.placeAt (s : Store Float) (coordinate : Waypoint Float → Float) (i : Nat) : Int :=
  ((s.waypoints[i]?.map coordinate).bind place?).getD 0

theorem exists_placeAt {s : Store Float} {i : Nat} {w : Waypoint Float}
    (coordinate : Waypoint Float → Float) (hw : s.waypoints[i]? = some w)
    (finite : Scalar.isFinite (coordinate w) = true) :
    place? (coordinate w) = some (s.placeAt coordinate i) ∧
      (s.placeAt coordinate i).natAbs < top := by
  obtain ⟨a, ha, small⟩ := (isFinite_double_iff _).1 finite
  have value : s.placeAt coordinate i = a := by
    rw [Store.placeAt, hw, Option.map_some, Option.bind_some, ha, Option.getD_some]
  rw [value]
  exact ⟨ha, small⟩

theorem natAbs_sub_le_of_secondPower {x y : Float} {a b : Int} {k : Nat} (hk : 1074 = k + k)
    (hx : place? x = some a ∧ a.natAbs < top) (hy : place? y = some b ∧ b.natAbs < top)
    (zero : ¬ 0.0 < Scalar.secondPower (x - y)) : (a - b).natAbs ≤ 2 ^ k := by
  by_contra apart
  obtain ⟨n, hn, pos⟩ :=
    exists_place_square_sub_pos hx.1 hy.1 hk hx.2 hy.2 (Nat.le_of_not_le apart)
  exact zero ((lt_iff _ _).2 ⟨0, n, place?_zero, hn, Int.natCast_pos.2 pos⟩)

/-- The ends of a link that costs nothing are close to each other in both coordinates. -/
theorem Store.Free.near {s : Store Float} (hs : s.InRange) (finite : s.IsFinite) {i j k : Nat}
    (hk : 1074 = k + k) (free : s.Free i j) :
    (s.placeAt (·.x) j - s.placeAt (·.x) i).natAbs ≤ 2 ^ k ∧
      (s.placeAt (·.y) j - s.placeAt (·.y) i).natAbs ≤ 2 ^ k := by
  obtain ⟨h, hl⟩ := free.linked
  obtain ⟨w, hw⟩ := Store.exists_waypoint (Store.lt_size_of_link hl)
  obtain ⟨v, hv⟩ := Store.exists_waypoint (hs hl)
  have spot := finite (Store.bare_of_getElem? hw)
  have spot' := finite (Store.bare_of_getElem? hv)
  have number := LawfulScalar.isNaN_of_isFinite free.isFinite
  have zero := free.notPositive
  simp only [Store.stepCost, hw, hv, Waypoint.stepCost] at number zero
  obtain ⟨zeroX, zeroY⟩ := LawfulZero.not_lt_of_add
    (LawfulScalar.not_secondPower_lt_zero _) (LawfulScalar.not_secondPower_lt_zero _) number zero
  exact ⟨natAbs_sub_le_of_secondPower hk (exists_placeAt (·.x) hv spot'.1)
      (exists_placeAt (·.x) hw spot.1) zeroX,
    natAbs_sub_le_of_secondPower hk (exists_placeAt (·.y) hv spot'.2)
      (exists_placeAt (·.y) hw spot.2) zeroY⟩

/-- Along a chain of short steps, the ends are no farther apart than all steps together. -/
theorem natAbs_sub_le_of_isChain {f : Nat → Int} {d a b : Nat} {l : List Nat}
    (chain : (a :: l).IsChain fun i j => (f j - f i).natAbs ≤ d)
    (last : (a :: l).getLast? = some b) : (f b - f a).natAbs ≤ l.length * d := by
  induction l generalizing a with
  | nil =>
    cases last
    simp
  | cons c l ih =>
    rw [List.isChain_cons_cons] at chain
    rw [List.getLast?_cons_cons] at last
    have rest := ih chain.2 last
    have first := chain.1
    rw [List.length_cons, Nat.add_mul, Nat.one_mul]
    omega

theorem two_pow_le_square_of_wide {threshold : Float} (wide : 1e-100 < threshold) {l : Nat}
    (hl : l = 741) :
    ∃ n : Nat, place? (Scalar.square threshold) = some (n : Int) ∧ 2 ^ (l + l - 1074) ≤ n := by
  obtain ⟨least, c, hleast, hc, above⟩ := (lt_iff _ _).1 wide
  have low : ∀ b ∈ place? 1e-100, (2 ^ l : Nat) ≤ b := by
    rw [hl]
    decide +kernel
  have large : 2 ^ l ≤ c.natAbs := by
    have := low least hleast
    omega
  exact ⟨_, place?_mul_self hc,
    le_min (le_squared (by omega) large) (two_pow_lt_top (by omega)).le⟩

/-- The squared distance of two spots that are close to each other is below the square of a
threshold that is not too small. -/
theorem squaredDistanceTo_lt_of_near {s : Store Float} {i j k : Nat} {w v : Waypoint Float}
    (hk : k = 637) (hw : s.waypoints[i]? = some w) (hv : s.waypoints[j]? = some v)
    (finite : w.IsFinite) (finite' : v.IsFinite)
    (nearX : (s.placeAt (·.x) i - s.placeAt (·.x) j).natAbs ≤ 2 ^ k)
    (nearY : (s.placeAt (·.y) i - s.placeAt (·.y) j).natAbs ≤ 2 ^ k)
    {threshold : Float} (wide : 1e-100 < threshold) :
    w.squaredDistanceTo v.x v.y < Scalar.square threshold := by
  obtain ⟨hwx, smallWx⟩ := exists_placeAt (·.x) hw finite.1
  obtain ⟨hwy, smallWy⟩ := exists_placeAt (·.y) hw finite.2
  obtain ⟨hvx, smallVx⟩ := exists_placeAt (·.x) hv finite'.1
  obtain ⟨hvy, smallVy⟩ := exists_placeAt (·.y) hv finite'.2
  obtain ⟨m, hm, leM⟩ := exists_place_square_sub_le hwx hvx (by omega) smallWx smallVx nearX
  obtain ⟨n, hn, leN⟩ := exists_place_square_sub_le hwy hvy (by omega) smallWy smallVy nearY
  obtain ⟨l, hl⟩ : ∃ l, l = 741 := ⟨_, rfl⟩
  obtain ⟨q, hq, large⟩ := two_pow_le_square_of_wide wide hl
  have small : 2 ^ (k + k - 1074) < top := two_pow_lt_top (by omega)
  have sum : place? (w.squaredDistanceTo v.x v.y) = some (nearest (m + n)) := by
    rw [Waypoint.squaredDistanceTo, Scalar.square, Scalar.square, place?_add hm hn, sum?,
      Int.natAbs_natCast, Int.natAbs_natCast, if_pos (leM.trans_lt small),
      if_pos (leN.trans_lt small)]
  have total : (m + n : Int).natAbs ≤ 2 ^ (k + k - 1074 + 1) := by
    rw [pow_succ]
    omega
  have between : 2 ^ (k + k - 1074 + 1) < 2 ^ (l + l - 1074) :=
    Nat.pow_lt_pow_right (by decide) (by omega)
  have bound := natAbs_nearest_le_two_pow total
  refine (lt_iff _ _).2 ⟨nearest (m + n), q, sum, hq, ?_⟩
  generalize 2 ^ (k + k - 1074 + 1) = low at bound between
  generalize 2 ^ (l + l - 1074) = high at large between
  omega

/-- The ends of a path of links that cost nothing are close to each other. -/
theorem near_of_path {s : Store Float} (hs : s.InRange) (finite : s.IsFinite)
    (few : s.size ≤ 2 ^ 100) {a b k : Nat} {path : List Nat} (hk : k = 637)
    (isPath : s.IsPath a b path) (below : ∀ i ∈ path, i < s.size)
    (free : path.IsChain s.Free) :
    (s.placeAt (·.x) b - s.placeAt (·.x) a).natAbs ≤ 2 ^ k ∧
      (s.placeAt (·.y) b - s.placeAt (·.y) a).natAbs ≤ 2 ^ k := by
  obtain ⟨j, hj⟩ : ∃ j, 1074 = j + j := ⟨537, rfl⟩
  cases path with
  | nil => cases isPath.head
  | cons c l =>
    cases isPath.head
    have length : l.length ≤ 2 ^ 100 :=
      (Nat.le_succ _).trans ((Search.length_le_of_nodup isPath.nodup below).trans few)
    have total : l.length * 2 ^ j ≤ 2 ^ k := by
      have split : 2 ^ k = 2 ^ 100 * 2 ^ j := by
        rw [← pow_add]
        congr 1
        omega
      rw [split]
      exact Nat.mul_le_mul_right _ length
    exact ⟨(natAbs_sub_le_of_isChain (free.imp fun _ _ h => (h.near hs finite hj).1)
        isPath.last).trans total,
      (natAbs_sub_le_of_isChain (free.imp fun _ _ h => (h.near hs finite hj).2)
        isPath.last).trans total⟩

end Near

/-- While positions are not smoothed, a frontier is its own answer, under every threshold above
1e-100 and on every map that is not astronomically large. -/
theorem Request.path_from_frontier {config : Config Float} (off : config.smoothing = false)
    (wide : 1e-100 < config.threshold) {session : List (Request Float)}
    (hs : ∀ r ∈ session, r.isFinitePlacement = true) :
    let s := (run (.empty config) session).store
    s.size ≤ 2 ^ 100 → ∀ (u : Nat) (path : List Nat), s.isFrontier u = true →
      s.pathToFrontier (.int u) = .ok path → path = [u] := by
  intro s few u path frontier answer
  have wellFormed : s.WellFormed := Store.Reachable.wellFormed ⟨config, session, rfl⟩
  have sealed : s.Sealed := sealed_run (g := .empty config) Store.wellFormed_empty
    Store.sealed_empty fun r hr => createsObject_of_isFinitePlacement (hs r hr)
  have dispersed := dispersed_run off hs
  obtain ⟨st, priced, rfl⟩ := Store.exists_priced_of_path answer
  have below := priced.lt_size_of_mem_path s.isFrontier
  obtain ⟨⟨target, le, fits, isPath⟩, free, -, -⟩ := priced.idles frontier
  rcases le.lt_or_eq with lt | rfl
  · exfalso
    have hu : u < s.size := below u (List.mem_of_mem_head? isPath.head)
    obtain ⟨w, hw⟩ := Store.exists_waypoint (lt.trans hu)
    obtain ⟨v, hv⟩ := Store.exists_waypoint hu
    have bare := Store.bare_of_getElem? hw
    have bare' := Store.bare_of_getElem? hv
    have finite : w.bare.IsFinite := dispersed.finite bare
    have finite' : v.bare.IsFinite := dispersed.finite bare'
    have spot : v.hasObject = false := sealed.hasObject_eq_false hv frontier
    have apart := dispersed.spots lt bare bare' spot
    obtain ⟨k, hk⟩ : ∃ k, k = 637 := ⟨_, rfl⟩
    obtain ⟨nearX, nearY⟩ :=
      near_of_path wellFormed.inRange dispersed.finite few hk isPath below free
    exact apart.1 (squaredDistanceTo_lt_of_near hk hw hv finite finite' nearX nearY wide)
  · exact isPath.eq_singleton

end WaypointMap
