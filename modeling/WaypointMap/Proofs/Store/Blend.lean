import WaypointMap.Placement
import WaypointMap.Proofs.Distance

/-!
# Blended positions

A blend of finite coordinates is finite, also where both are as large as doubles can be: the
weights add up to a little less than one, and the roundings do not make up for it. In exact
arithmetic a blend leaves three tenths of the way to the reported coordinate.
-/

namespace WaypointMap

open Store

/-- Scalars in which a blend of finite coordinates is finite. -/
class LawfulBlend (K : Type) [Scalar K] : Prop extends LawfulDistance K where
  isFinite_blend {kept reported : K} : Scalar.isFinite kept = true →
    Scalar.isFinite reported = true → Scalar.isFinite (blend kept reported) = true

theorem Waypoint.IsFinite.blend {K : Type} [Scalar K] [LawfulBlend K] {w : Waypoint K}
    (hw : w.IsFinite) {x y : K} (hx : Scalar.isFinite x = true) (hy : Scalar.isFinite y = true) :
    ({ w with x := Store.blend w.x x, y := Store.blend w.y y } : Waypoint K).IsFinite :=
  ⟨LawfulBlend.isFinite_blend hw.1 hx, LawfulBlend.isFinite_blend hw.2 hy⟩

/-! ## Blended doubles -/

namespace Double

/-- The places of the two weights. -/
@[irreducible] def weights : Nat × Nat :=
  (5404319552844595 * 2 ^ 1020, 6305039478318694 * 2 ^ 1021)

theorem place?_weights :
    place? (keptWeight : Float) = some (weights.1 : Int) ∧
      place? (reportedWeight : Float) = some (weights.2 : Int) := by
  decide +kernel

/-- Even the largest double and itself have a blend below infinity. -/
theorem blend_largest_lt_top :
    weights.1 < top ∧ weights.2 < top ∧ multiplied (weights.1 * largest) < top ∧
      multiplied (weights.2 * largest) < top ∧
      rounded (multiplied (weights.1 * largest) + multiplied (weights.2 * largest)) < top := by
  decide +kernel

theorem isFinite_double_blend {x y : Float} (hx : x.isFinite = true) (hy : y.isFinite = true) :
    Float.isFinite (blend x y) = true := by
  obtain ⟨keptPlace, reportedPlace⟩ := place?_weights
  obtain ⟨small, small', below, below', sum⟩ := blend_largest_lt_top
  obtain ⟨a, ha, finite⟩ := (isFinite_double_iff x).1 hx
  obtain ⟨b, hb, finite'⟩ := (isFinite_double_iff y).1 hy
  have size : ∀ n : Nat, (n : Int).natAbs = n := Int.natAbs_natCast
  obtain ⟨p, hp, le⟩ := exists_place_mul_le keptPlace ha ((size _).trans_lt small) finite
    (size _).le (natAbs_le_largest ha finite)
  obtain ⟨q, hq, le'⟩ := exists_place_mul_le reportedPlace hb ((size _).trans_lt small') finite'
    (size _).le (natAbs_le_largest hb finite')
  have total : (p + q).natAbs ≤ multiplied (weights.1 * largest) + multiplied (weights.2 * largest) :=
    (Int.natAbs_add_le p q).trans (Nat.add_le_add le le')
  refine (isFinite_double_iff _).2 ⟨nearest (p + q), ?_, ?_⟩
  · change place? (keptWeight * x + reportedWeight * y) = _
    rw [place?_add hp hq, sum?, if_pos (le.trans_lt below), if_pos (le'.trans_lt below')]
  · rw [natAbs_nearest]
    exact (min_le_left ..).trans_lt ((rounded_mono total).trans_lt sum)

end Double

instance : LawfulBlend Float where
  isFinite_blend := Double.isFinite_double_blend

/-! ## Blended rationals -/

instance : LawfulBlend Rat where
  isFinite_blend _ _ := rfl

namespace Store

theorem blend_eq (kept reported : Rat) :
    blend kept reported = reported + 3 / 10 * (kept - reported) := by
  have weight : (keptWeight : Rat) = 3 / 10 := by decide +kernel
  have weight' : (reportedWeight : Rat) = 7 / 10 := by decide +kernel
  rw [blend, weight, weight']
  ring

theorem squaredDistanceTo_blend (w : Waypoint Rat) (x y : Rat) :
    ({ w with x := blend w.x x, y := blend w.y y } : Waypoint Rat).squaredDistanceTo x y =
      9 / 100 * w.squaredDistanceTo x y := by
  simp only [Waypoint.squaredDistanceTo, Scalar.square, blend_eq]
  ring

end Store

end WaypointMap
