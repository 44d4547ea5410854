import WaypointMap.Proofs.Graph.Growth
import WaypointMap.Proofs.Store.Relink

/-!
# What a placement changes

Whether a report counts as a known waypoint is what the question for a nearby waypoint answers. A
report that does moves this waypoint, and only while positions are smoothed. A report that does
not adds one waypoint, which is linked with the origin unless it is the first. A report of an
object links the object with its origin in either case. Links change as far as the new one makes
it necessary, and everything else stays as it is.
-/

namespace WaypointMap

variable {K : Type}

namespace Store

variable {s : Store K}

theorem resolve_of_unknown {id : Json} (unknown : ∀ i < s.size, id ≠ .int (i : Nat)) :
    s.resolve id = .error (.unknownWaypoint id s.size) := by
  unfold resolve
  cases found : s.resolve? id with
  | none => rfl
  | some i =>
    obtain ⟨rfl, lt⟩ := resolve?_eq_some_iff.1 found
    exact absurd rfl (unknown i lt)

/-! ## One more waypoint -/

theorem push_of_empty (empty : s.size = 0) (x y : K) (flags : Compass Bool) (hasObject : Bool) :
    s.push x y flags hasObject = ⟨#[⟨0, x, y, flags.map .ofFlag, hasObject⟩]⟩ := by
  have none : s.waypoints = #[] := Array.eq_empty_of_size_eq_zero empty
  rw [push, empty, none]
  rfl

/-- Whether a store is another with one more waypoint at a point, which is linked from `o` in
heading `h` and follows its blocked flags in the other headings. -/
structure Extended (s : Store K) (x y : K) (flags : Compass Bool) (hasObject : Bool) (o : Nat)
    (h : Heading) (t : Store K) : Prop where
  size : t.size = s.size + 1
  bare : ∀ i, t.bare i = if i = s.size then some (s.newcomer x y hasObject) else s.bare i
  relinked : s.Relinked o h s.size t
  seeded : ∀ k, k ≠ h.opposite → t.link s.size k = some (.ofFlag (flags.get k))

section Extended

variable {x y : K} {flags : Compass Bool} {hasObject : Bool} {o : Nat} {h : Heading} {t : Store K}

theorem Extended.isObject_new (new : s.Extended x y flags hasObject o h t) :
    t.isObject s.size = hasObject := by
  rw [isObject_eq, new.bare, if_pos rfl]
  rfl

theorem Extended.isObject_older (new : s.Extended x y flags hasObject o h t) {i : Nat}
    (hi : i < s.size) : t.isObject i = s.isObject i := by
  rw [isObject_eq, new.bare, if_neg (Nat.ne_of_lt hi), ← isObject_eq]

end Extended

section Push

variable {o : Nat} (lt : o < s.size) (x y : K) (flags : Compass Bool) (hasObject : Bool)
  (h : Heading)

include lt in
theorem former?_push_near :
    (s.push x y flags hasObject).former? o h s.size = s.former? o h s.size :=
  former?_congr (by rw [link_push, if_neg (Nat.ne_of_lt lt)]) _

/-- A new waypoint has no former partner. -/
theorem former?_push_new (k : Heading) (partner : Nat) :
    (s.push x y flags hasObject).former? s.size k partner = none := by
  rw [former?, link_push, if_pos rfl]
  cases flags.get k <;> rfl

theorem former?_size (s : Store K) (k : Heading) (partner : Nat) :
    s.former? s.size k partner = none := by
  rw [Option.eq_none_iff_forall_ne_some]
  intro a former
  exact Nat.lt_irrefl _ (lt_size_of_link (former?_eq_some_iff.1 former).1)

theorem former?_push_far :
    (s.push x y flags hasObject).former? s.size h.opposite o = s.former? s.size h.opposite o := by
  rw [former?_push_new, former?_size]

include lt

theorem WellFormed.extended_push_joined (hs : s.WellFormed) :
    s.Extended x y flags hasObject o h ((s.push x y flags hasObject).joined o h s.size) := by
  have older : o < (s.push x y flags hasObject).size := by rw [size_push]; omega
  have newest : s.size < (s.push x y flags hasObject).size := by rw [size_push]; omega
  have new := (hs.push x y flags hasObject).relinked_joined older newest h
  refine ⟨?_, bare_push_joined s x y flags hasObject o h, new.of_older ?_
    (former?_push_near lt x y flags hasObject h) (former?_push_far x y flags hasObject h), ?_⟩
  · rw [size_joined, size_push]
  · intro a k ha
    rw [link_push, if_neg (Nat.ne_of_lt ha)]
  · intro k hk
    rw [new.kept newest, link_push, if_pos rfl]
    · exact fun c => Nat.ne_of_lt lt c.1.symm
    · exact fun c => hk c.2
    · exact fun c => (former?_eq_some_iff.1 c.2).2 rfl
    · rintro ⟨-, former⟩
      rw [former?_push_new] at former
      cases former

theorem WellFormed.joinedLog_push (hs : s.WellFormed) :
    (s.push x y flags hasObject).joinedLog o h s.size = s.warnings o h s.size := by
  rw [(hs.push x y flags hasObject).joinedLog_eq]
  exact warnings_congr (former?_push_near lt x y flags hasObject h)
    (former?_push_far x y flags hasObject h)

end Push

/-! ## A waypoint that moves -/

section Merge

variable [Scalar K] (hs : s.WellFormed) (config : Config K) (x y : K)

include hs

theorem WellFormed.mergePosition (i : Nat) : (mergePosition config i x y s).WellFormed :=
  hs.changes (changes_mergePosition config i x y s)

theorem WellFormed.relinked_mergePosition {o i : Nat} (ho : o < s.size) (hi : i < s.size)
    (h : Heading) : s.Relinked o h i ((Store.mergePosition config i x y s).joined o h i) := by
  have same := link_mergePosition config i x y s
  have new := (hs.mergePosition config x y i).relinked_joined (i := o) (j := i)
    (by rwa [size_mergePosition]) (by rwa [size_mergePosition]) h
  exact new.of_older (fun k _ => same _ k) (former?_congr (same o h) _)
    (former?_congr (same i h.opposite) _)

theorem WellFormed.joinedLog_mergePosition (o i : Nat) (h : Heading) :
    (Store.mergePosition config i x y s).joinedLog o h i = s.warnings o h i := by
  have same := link_mergePosition config i x y s
  rw [(hs.mergePosition config x y i).joinedLog_eq]
  exact warnings_congr (former?_congr (same o h) _) (former?_congr (same i h.opposite) _)

end Merge

end Store

namespace Graph

variable [Scalar K] {g : Graph K}

/-! ## The waypoint that a report counts as -/

/-- A graph after a report at a point that counts as one of its waypoints. The waypoint moves
most of the way to the point if positions are smoothed. -/
def merged (g : Graph K) (w : Waypoint K) (x y : K) : Graph K :=
  if g.config.smoothing then
    { g with store := g.store.moveTo w.id (0.3 * w.x + 0.7 * x) (0.3 * w.y + 0.7 * y) }
  else g

theorem mergePosition_eq_merged {w : Waypoint K} (hw : g.store.waypoints[w.id]? = some w)
    (x y : K) : Store.mergePosition g.config w.id x y g.store = (g.merged w x y).store := by
  rw [merged, Store.mergePosition_eq hw]
  split
  · rfl
  · rfl

theorem config_merged (w : Waypoint K) (x y : K) : (g.merged w x y).config = g.config := by
  unfold merged
  split
  · rfl
  · rfl

theorem isObject_merged (w : Waypoint K) (x y : K) (i : Nat) :
    (g.merged w x y).store.isObject i = g.store.isObject i := by
  unfold merged
  split
  · simp only [Store.isObject, Store.moveTo, Store.getElem?_adjust]
    split <;> simp [Function.comp_def]
  · rfl

section Merged

variable {w : Waypoint K} (hw : g.store.waypoints[w.id]? = some w) (x y : K) (o : Nat)
  (h : Heading) (i : Nat)

include hw

theorem bare_mergePosition_joined :
    ((Store.mergePosition g.config w.id x y g.store).joined o h w.id).bare i =
      (g.merged w x y).store.bare i := by
  rw [Store.bare_joined, mergePosition_eq_merged hw]

theorem isObject_mergePosition_joined :
    ((Store.mergePosition g.config w.id x y g.store).joined o h w.id).isObject i =
      g.store.isObject i := by
  rw [Store.isObject_congr (funext (bare_mergePosition_joined hw x y o h)), isObject_merged]

end Merged

section Answer

variable {x y : K}

theorem nearby_of_nearestWithin {w : Waypoint K} {i : Nat}
    (found : g.store.nearestWithin x y g.config.threshold = some i)
    (hw : g.store.waypoints[i]? = some w) : g.nearby (.ok x) (.ok y) = .ok (some w) := by
  rw [nearby, Store.nearby_ok, found]
  change some <$> g.store.fetch i = _
  rw [Store.fetch_eq_ok hw]
  rfl

theorem nearby_of_nearestWithin_none
    (far : g.store.nearestWithin x y g.config.threshold = none) :
    g.nearby (.ok x) (.ok y) = .ok none := by
  rw [nearby, Store.nearby_ok, far]
  rfl

end Answer

/-- The question for a nearby waypoint is always answered, and with the waypoint that a report
at the point counts as. -/
theorem nearby_cases [LawfulScalar K] (hg : g.store.WellFormed) (x y : K) :
    (∃ w, g.nearby (.ok x) (.ok y) = .ok (some w) ∧
      g.store.nearestWithin x y g.config.threshold = some w.id ∧
      g.store.waypoints[w.id]? = some w) ∨
    g.nearby (.ok x) (.ok y) = .ok none ∧
      g.store.nearestWithin x y g.config.threshold = none := by
  cases found : g.store.nearestWithin x y g.config.threshold with
  | none => exact .inr ⟨nearby_of_nearestWithin_none found, rfl⟩
  | some i =>
    obtain ⟨w, hw⟩ := Store.exists_waypoint (Store.lt_size_of_nearestWithin found)
    obtain rfl := hg.ids hw
    exact .inl ⟨w, nearby_of_nearestWithin found hw, rfl, hw⟩

theorem exists_nearby [LawfulScalar K] (hg : g.store.WellFormed) (x y : K) :
    ∃ found, g.nearby (.ok x) (.ok y) = .ok found := by
  obtain ⟨w, near, -⟩ | ⟨near, -⟩ := nearby_cases hg x y
  · exact ⟨_, near⟩
  · exact ⟨_, near⟩

section Nearby

variable [LawfulScalar K] (hg : g.store.WellFormed) {x y : K}

include hg

theorem nearestWithin_of_nearby {w : Waypoint K} (near : g.nearby (.ok x) (.ok y) = .ok (some w)) :
    g.store.nearestWithin x y g.config.threshold = some w.id ∧
      g.store.waypoints[w.id]? = some w := by
  obtain ⟨v, near', found⟩ | ⟨near', -⟩ := nearby_cases hg x y
  · cases near'.symm.trans near
    exact found
  · cases near'.symm.trans near

theorem nearestWithin_of_nearby_none (near : g.nearby (.ok x) (.ok y) = .ok none) :
    g.store.nearestWithin x y g.config.threshold = none := by
  obtain ⟨v, near', -⟩ | ⟨-, far⟩ := nearby_cases hg x y
  · cases near'.symm.trans near
  · exact far

theorem isObject_eq_false_of_nearby
    (spot : ∀ w, g.nearby (.ok x) (.ok y) = .ok (some w) → w.hasObject = false) {i : Nat}
    (found : g.store.nearestWithin x y g.config.threshold = some i) :
    g.store.isObject i = false := by
  obtain ⟨w, near, found', hw⟩ | ⟨-, far⟩ := nearby_cases hg x y
  · cases found'.symm.trans found
    rw [Store.isObject_of_bare (Store.bare_of_getElem? hw)]
    exact spot w near
  · cases far.symm.trans found

end Nearby

/-! ## Reports of a spot -/

theorem run_placeWaypoint (x y : Checked K) (blocked : Checked (Compass Bool)) (origin : Json)
    (heading : Checked Heading) :
    (placeWaypoint x y blocked origin heading).run g =
      let placed := (Store.placeWaypoint g.config x y blocked origin heading).run g.store
      ⟨placed.result, { g with store := placed.state }, placed.log⟩ := rfl

/-- A report of a spot counts as the waypoint that is nearby, if there is one, whatever else it
says; only this waypoint moves, and only if positions are smoothed. Otherwise the first waypoint
of a map needs its blocked flags and nothing else. Any other report is refused for the first of its
heading, its origin and its blocked flags that is bad, and changes nothing, or it makes one more
waypoint that is linked with the origin. -/
theorem placeWaypoint_effect [LawfulScalar K] (hg : g.store.Reachable) (x y : K)
    (blocked : Checked (Compass Bool)) (origin : Json) (heading : Checked Heading) :
    let n := g.store.size
    let outcome := (placeWaypoint (.ok x) (.ok y) blocked origin heading).run g
    (∃ found, g.nearby (.ok x) (.ok y) = .ok found) ∧
    (∀ w, g.nearby (.ok x) (.ok y) = .ok (some w) →
      outcome = ⟨.ok w.id, g.merged w x y, [.visited w.id]⟩) ∧
    (g.nearby (.ok x) (.ok y) = .ok none → n = 0 →
      (∀ e, blocked = .error e → outcome = ⟨.error e, g, []⟩) ∧
      ∀ flags, blocked = .ok flags →
        outcome = ⟨.ok 0, { g with store := ⟨#[⟨0, x, y, flags.map .ofFlag, false⟩]⟩ },
          [.createdFirst 0 x y]⟩) ∧
    (g.nearby (.ok x) (.ok y) = .ok none → n ≠ 0 →
      (∀ e, heading = .error e → outcome = ⟨.error e, g, []⟩) ∧
      (∀ h, heading = .ok h → (∀ o < n, origin ≠ .int o) →
        outcome = ⟨.error (.unknownWaypoint origin n), g, []⟩) ∧
      (∀ h o e, heading = .ok h → origin = .int (o : Nat) → o < n → blocked = .error e →
        outcome = ⟨.error e, g, []⟩) ∧
      ∀ h o flags, heading = .ok h → origin = .int (o : Nat) → o < n → blocked = .ok flags →
        outcome.result = .ok n ∧ outcome.state.config = g.config ∧
        g.store.Extended x y flags false o h outcome.state.store ∧
        outcome.log = g.store.warnings o h n ++ [.created n x y h o]) := by
  have wellFormed := hg.wellFormed
  dsimp only
  rw [run_placeWaypoint]
  refine ⟨exists_nearby wellFormed x y, ?_, ?_, ?_⟩
  · intro w near
    obtain ⟨found, hw⟩ := nearestWithin_of_nearby wellFormed near
    rw [Store.run_placeWaypoint_of_near found, mergePosition_eq_merged hw, ← config_merged w x y]
  · intro _ empty
    rw [Store.run_placeWaypoint_of_empty empty]
    constructor
    · rintro e rfl
      rfl
    · rintro flags rfl
      dsimp only
      rw [Store.push_of_empty empty, empty]
  · intro near inhabited
    have far := nearestWithin_of_nearby_none wellFormed near
    rw [Store.run_placeWaypoint_of_far wellFormed inhabited far]
    refine ⟨?_, ?_, ?_, ?_⟩
    · rintro e rfl
      rfl
    · rintro h rfl unknown
      rw [Store.resolve_of_unknown unknown]
    · rintro h o e rfl rfl lt rfl
      rw [Store.resolve_eq_ok_iff.2 ⟨rfl, lt⟩]
    · rintro h o flags rfl rfl lt rfl
      rw [Store.resolve_eq_ok_iff.2 ⟨rfl, lt⟩]
      dsimp only
      rw [wellFormed.joinedLog_push lt]
      exact ⟨rfl, rfl, wellFormed.extended_push_joined lt x y flags false h, rfl⟩

/-- A spot that counts as a known one, the first spot of a map, a spot with an unknown origin and
a spot whose origin has a partner already. -/
theorem placeWaypoint_effect_trail :
    let g := Request.run (.empty ⟨0.1, true⟩) [Request.spot 0.0 .null, .spot 1.0 (.int 0)]
    let report := fun (g : Graph Float) (x : Float) (origin : Json) (heading : Checked Heading) =>
      (placeWaypoint (.ok x) (.ok 0.0) (.ok ⟨true, false, false, false⟩) origin heading).run g
    let visited := report g 1.05 .null (.error (.unknownHeading .null))
    let first := report (.empty .default) 1.05 .null (.error (.unknownHeading .null))
    let stray := report g 2.0 (.int 7) (.ok .east)
    let added := report g 2.0 (.int 0) (.ok .east)
    visited.result = .ok 1 ∧ visited.state.store.size = 2 ∧
      visited.state.store.bare 1 =
        some ⟨1, 0.3 * 1.0 + 0.7 * 1.05, 0.0, .replicate .unknown, false⟩ ∧
      first.result = .ok 0 ∧ first.state.store.link 0 .north = some .blocked ∧
      stray = ⟨.error (.unknownWaypoint (.int 7) 2), g, []⟩ ∧
      added.result = .ok 2 ∧ added.state.store.size = 3 ∧
      added.state.store.link 0 .east = some (.leadsTo 2) ∧
      added.state.store.link 1 .west = some .blocked ∧
      added.state.store.link 2 .north = some .blocked := by
  intro g report visited first stray added
  have effect := fun (g : Graph Float) (hg : g.store.Reachable) x origin heading =>
    placeWaypoint_effect hg x 0.0 (.ok ⟨true, false, false, false⟩) origin heading
  have hg : g.store.Reachable := ⟨_, _, rfl⟩
  let w : Waypoint Float := ⟨1, 1.0, 0.0, ⟨.unknown, .unknown, .unknown, .leadsTo 0⟩, false⟩
  have near : g.nearby (.ok 1.05) (.ok 0.0) = .ok (some w) :=
    nearby_of_nearestWithin (i := 1) (by decide +kernel) (by decide +kernel)
  have hvisited : visited = ⟨.ok 1, g.merged w 1.05 0.0, [.visited 1]⟩ :=
    (effect g hg 1.05 .null _).2.1 w near
  have nowhere : (Graph.empty Config.default).nearby (.ok 1.05) (.ok 0.0) = .ok none :=
    nearby_of_nearestWithin_none (by decide +kernel)
  have hfirst := ((effect _ ⟨.default, [], rfl⟩ 1.05 .null (.error (.unknownHeading .null))).2.2.1
    nowhere rfl).2 _ rfl
  have far : g.nearby (.ok 2.0) (.ok 0.0) = .ok none :=
    nearby_of_nearestWithin_none (by decide +kernel)
  have size : g.store.size = 2 := by decide +kernel
  have inhabited : g.store.size ≠ 0 := by omega
  have unknown : ∀ o < g.store.size, Json.int 7 ≠ .int o := by
    intro o lt eq
    have seven : (7 : Int) = o := Json.int.inj eq
    omega
  have hstray := ((effect g hg 2.0 (.int 7) (.ok .east)).2.2.2 far inhabited).2.1 .east rfl unknown
  rw [size] at hstray
  obtain ⟨result, -, new, -⟩ := ((effect g hg 2.0 (.int 0) (.ok .east)).2.2.2 far
    inhabited).2.2.2 .east 0 _ rfl rfl (by omega) rfl
  rw [hvisited]
  refine ⟨rfl, by decide +kernel, by decide +kernel, congrArg Outcome.result hfirst,
    congrArg (fun o => o.state.store.link 0 .north) hfirst, hstray, result, new.size,
    new.relinked.near, new.relinked.nearFormer (by decide +kernel), new.seeded .north (by decide)⟩

/-! ## Reports of an object -/

theorem run_placeObject (origin : Json) (x y : Checked K) (heading : Checked Heading) :
    (placeObject origin x y heading).run g =
      let placed := (Store.placeObject g.config origin x y heading).run g.store
      ⟨placed.result, { g with store := placed.state }, placed.log⟩ := rfl

/-- A report of an object is refused for its heading or else for its origin, also where the object
is known, and changes nothing then. Otherwise it comes to the waypoint that is nearby, if that one
is an object, and else to a new object. The object, which may be the origin itself, is linked with
the origin. A known object moves, and only if positions are smoothed; no waypoint becomes an
object or ceases to be one. -/
theorem placeObject_effect [LawfulScalar K] (hg : g.store.Reachable) (origin : Json) (x y : K)
    (heading : Checked Heading) :
    let n := g.store.size
    let outcome := (placeObject origin (.ok x) (.ok y) heading).run g
    let t := outcome.state.store
    (∀ e, heading = .error e → outcome = ⟨.error e, g, []⟩) ∧
    (∀ h, heading = .ok h → (∀ o < n, origin ≠ .int o) →
      outcome = ⟨.error (.unknownWaypoint origin n), g, []⟩) ∧
    ∀ h o, heading = .ok h → origin = .int (o : Nat) → o < n →
      ∃ found r, g.nearby (.ok x) (.ok y) = .ok found ∧ outcome.result = .ok r ∧
        outcome.state.config = g.config ∧ t.isObject r = true ∧
        (∀ i < n, t.isObject i = g.store.isObject i) ∧ g.store.Relinked o h r t ∧
        (∀ w, found = some w → w.hasObject = true →
          r = w.id ∧ t.size = n ∧ (∀ i, t.bare i = (g.merged w x y).store.bare i) ∧
          outcome.log = .sighted r :: g.store.warnings o h r) ∧
        ((∀ w, found = some w → w.hasObject = false) →
          r = n ∧ g.store.Extended x y (.replicate true) true o h t ∧
          outcome.log = .createdObject r x y :: g.store.warnings o h r) := by
  have wellFormed := hg.wellFormed
  dsimp only
  rw [run_placeObject]
  refine ⟨?_, ?_, ?_⟩
  · rintro e rfl
    rfl
  · rintro h rfl unknown
    rw [Store.run_placeObject_ok wellFormed, Store.resolve_of_unknown unknown]
  · rintro h o rfl rfl lt
    obtain ⟨found, near⟩ := exists_nearby wellFormed x y
    refine ⟨found, ?_⟩
    by_cases known : ∃ w, found = some w ∧ w.hasObject = true
    · obtain ⟨w, rfl, object⟩ := known
      obtain ⟨nearest, hw⟩ := nearestWithin_of_nearby wellFormed near
      have isObject : g.store.isObject w.id = true :=
        (Store.isObject_of_bare (Store.bare_of_getElem? hw)).trans object
      rw [Store.run_placeObject_of_object wellFormed g.config lt x y h nearest isObject,
        wellFormed.joinedLog_mergePosition]
      refine ⟨w.id, near, rfl, rfl, (isObject_mergePosition_joined hw x y o h _).trans isObject,
        fun i _ => isObject_mergePosition_joined hw x y o h i,
        wellFormed.relinked_mergePosition g.config x y lt (Store.lt_size_of_isObject isObject) h,
        ?_, ?_⟩
      · rintro _ ⟨⟩ -
        refine ⟨rfl, ?_, bare_mergePosition_joined hw x y o h, rfl⟩
        rw [Store.size_joined, Store.size_mergePosition]
      · intro spot
        cases object.symm.trans (spot w rfl)
    · have spot : ∀ w, found = some w → w.hasObject = false :=
        fun w hw => Bool.eq_false_iff.2 fun object => known ⟨w, hw, object⟩
      have hidden : ∀ {i : Nat}, g.store.nearestWithin x y g.config.threshold = some i →
          g.store.isObject i = false := by
        refine isObject_eq_false_of_nearby wellFormed fun w near' => spot w ?_
        cases near.symm.trans near'
        rfl
      have new := wellFormed.extended_push_joined lt x y (.replicate true) true h
      rw [Store.run_placeObject_of_hidden wellFormed g.config lt x y h hidden,
        wellFormed.joinedLog_push lt]
      exact ⟨g.store.size, near, rfl, rfl, new.isObject_new, fun i hi => new.isObject_older hi,
        new.relinked, fun w hw object => absurd ⟨w, hw, object⟩ known, fun _ => ⟨rfl, new, rfl⟩⟩

/-- An object that is reported from itself, a new object, and an object that is known but reported
from an unknown origin. -/
theorem placeObject_effect_mirror :
    let g := Request.run (.empty ⟨0.1, true⟩) [Request.spot 0.0 .null, .sighting 0.5 .north]
    let report := fun (origin : Json) (x : Float) (h : Heading) =>
      (placeObject origin (.ok x) (.ok 0.0) (.ok h)).run g
    let itself := report (.int 1) 0.55 .south
    let added := report (.int 0) 2.0 .north
    itself.result = .ok 1 ∧ itself.state.store.size = 2 ∧
      itself.state.store.bare 1 = some ⟨1, 0.3 * 0.5 + 0.7 * 0.55, 0.0, .replicate .unknown, true⟩ ∧
      itself.state.store.link 1 .south = some (.leadsTo 1) ∧
      itself.state.store.link 1 .north = some (.leadsTo 1) ∧
      itself.state.store.link 0 .north = some .blocked ∧
      added.result = .ok 2 ∧ added.state.store.size = 3 ∧
      added.state.store.isObject 2 = true ∧
      added.state.store.link 0 .north = some (.leadsTo 2) ∧
      added.state.store.link 1 .south = some .blocked ∧
      report (.int 7) 0.55 .south = ⟨.error (.unknownWaypoint (.int 7) 2), g, []⟩ := by
  intro g report itself added
  have effect := fun origin x h => placeObject_effect (g := g) ⟨_, _, rfl⟩ origin x 0.0 (.ok h)
  have size : g.store.size = 2 := by decide +kernel
  let w : Waypoint Float := ⟨1, 0.5, 0.0, ⟨.blocked, .blocked, .leadsTo 0, .blocked⟩, true⟩
  have near : g.nearby (.ok 0.55) (.ok 0.0) = .ok (some w) :=
    nearby_of_nearestWithin (i := 1) (by decide +kernel) (by decide +kernel)
  have far : g.nearby (.ok 2.0) (.ok 0.0) = .ok none :=
    nearby_of_nearestWithin_none (by decide +kernel)
  have unknown : ∀ o < g.store.size, Json.int 7 ≠ .int o := by
    intro o lt eq
    have seven : (7 : Int) = o := Json.int.inj eq
    omega
  have stray := (effect (.int 7) 0.55 .south).2.1 .south rfl unknown
  rw [size] at stray
  obtain ⟨found, r, near', result, -, -, -, links, same, -⟩ :=
    (effect (.int 1) 0.55 .south).2.2 .south 1 rfl rfl (by omega)
  cases near.symm.trans near'
  obtain ⟨rfl, sameSize, bare, -⟩ := same w rfl rfl
  obtain ⟨found', n, far', result', -, object, -, links', -, new⟩ :=
    (effect (.int 0) 2.0 .north).2.2 .north 0 rfl rfl (by omega)
  cases far.symm.trans far'
  obtain ⟨rfl, extended, -⟩ := new nofun
  exact ⟨result, sameSize.trans size, (bare 1).trans (by decide +kernel), links.near, links.far,
    links.nearFormer (by decide +kernel), result', extended.size, object, links'.near,
    links'.nearFormer (by decide +kernel), stray⟩

end Graph

end WaypointMap
