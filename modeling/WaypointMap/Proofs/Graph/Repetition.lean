import WaypointMap.Proofs.Checked
import WaypointMap.Proofs.Graph.Growth

/-!
# Reports made again

While positions are not smoothed, a spot that was placed stays found: whatever is reported in
between, a second report of it changes nothing. An object is found again at once only if no
older waypoint is at its very place; if one is there, each report makes one more object.
-/

namespace WaypointMap

open Relation (ReflTransGen)

variable {K : Type} [Scalar K]

namespace Store

variable {s t : Store K} {threshold x y : K} {w : Waypoint K}

/-! ## Points near a waypoint -/

/-- Whether a waypoint is within a threshold of a point. -/
def Covers (s : Store K) (threshold x y : K) : Prop :=
  ∃ i w, s.bare i = some w ∧ w.squaredDistanceTo x y < Scalar.square threshold

theorem Covers.growths (h : s.Covers threshold x y)
    (steps : ReflTransGen (Growth threshold) s t) : t.Covers threshold x y := by
  obtain ⟨i, w, hw, near⟩ := h
  exact ⟨i, w, bare_of_growths steps hw, near⟩

variable [LawfulDistance K]

theorem covers_of_nearestWithin {i : Nat} (h : s.nearestWithin x y threshold = some i) :
    s.Covers threshold x y := by
  obtain ⟨w, hw, near⟩ := bare_of_nearestWithin h
  exact ⟨i, w, hw, near⟩

theorem Covers.exists_nearestWithin (h : s.Covers threshold x y) (hs : s.IsFinite)
    (hx : Scalar.isFinite x = true) (hy : Scalar.isFinite y = true) :
    ∃ k < s.size, s.nearestWithin x y threshold = some k := by
  obtain ⟨i, w, hw, near⟩ := h
  obtain ⟨k, u, found, hu, -⟩ := Store.exists_nearestWithin (hs.numbers hx hy) hw near
  exact ⟨k, lt_size_of_bare hu, found⟩

/-! ## The waypoint that was added last -/

section Added

variable {hasObject : Bool}
  (added : ∀ i, t.bare i = if i = s.size then some (s.newcomer x y hasObject) else s.bare i)
  (hx : Scalar.isFinite x = true) (hy : Scalar.isFinite y = true)

include added hx hy

theorem squaredDistances_of_newest :
    t.squaredDistances x y = s.squaredDistances x y ++ [0.0] := by
  have self : (s.newcomer x y hasObject).squaredDistanceTo x y = 0.0 :=
    Waypoint.squaredDistanceTo_self (w := s.newcomer x y hasObject) ⟨hx, hy⟩
  rw [squaredDistances_of_added added, self]

/-- If all older waypoints are at a distance, the one that was added last is the nearest. -/
theorem nearestWithin_newest (positive : (0.0 : K) < Scalar.square threshold)
    (above : ∀ d ∈ s.squaredDistances x y, 0.0 < d) :
    t.nearestWithin x y threshold = some s.size := by
  have distances := squaredDistances_of_newest added hx hy
  have numbers : ∀ d ∈ t.squaredDistances x y, Scalar.isNaN d = false := by
    intro d hd
    rw [distances, List.mem_append, List.mem_singleton] at hd
    rcases hd with older | rfl
    · exact (LawfulScalar.isNaN_of_lt (above d older)).2
    · exact (LawfulScalar.isNaN_of_lt positive).1
  rw [nearestWithin_eq_some_iff numbers, distances, ← length_squaredDistances s x y]
  exact ⟨0.0, firstLeast_last above, positive⟩

/-- If an older waypoint is not at a distance, the one that was added last is not the nearest. -/
theorem nearestWithin_older {d : K} (hd : d ∈ s.squaredDistances x y) (tie : ¬ 0.0 < d)
    {k : Nat} (found : t.nearestWithin x y threshold = some k) :
    s.nearestWithin x y threshold = some k ∧ k < s.size := by
  have distances := squaredDistances_of_newest added hx hy
  have numbers := numbers_of_nearestWithin found
  obtain ⟨e, least, near⟩ := (nearestWithin_eq_some_iff numbers).1 found
  rw [distances] at least
  have older : k < (s.squaredDistances x y).length := by
    -- Were the new one the nearest, the older one would be farther.
    by_contra last
    obtain ⟨j, hj⟩ := List.getElem?_of_mem hd
    have short := (List.getElem?_eq_some_iff.1 hj).1
    rcases getElem?_concat_cases least.entry with he | ⟨-, rfl⟩
    · exact last (List.getElem?_eq_some_iff.1 he).1
    · exact tie (least.first ((List.getElem?_append_left short).trans hj) (by omega))
  refine ⟨(nearestWithin_eq_some_iff ?_).2 ⟨e, least.of_concat older, near⟩, ?_⟩
  · intro c hc
    exact numbers c (by rw [distances]; exact List.mem_append_left _ hc)
  · rwa [length_squaredDistances] at older

end Added

/-! ## Spots -/

section Spot

variable {config : Config K} (off : config.smoothing = false)
  (positive : (0.0 : K) < Scalar.square config.threshold)
  (hx : Scalar.isFinite x = true) (hy : Scalar.isFinite y = true)

include off positive hx hy

/-- The waypoint that a report of a spot comes to is then the nearest to the spot. -/
theorem nearestWithin_placeWaypoint (hs : s.WellFormed) (finite : s.IsFinite)
    {blocked : Checked (Compass Bool)} {origin : Json} {heading : Checked Heading} {i : Nat}
    (placed : ((placeWaypoint config (.ok x) (.ok y) blocked origin heading).run s).result =
      .ok i) :
    ((placeWaypoint config (.ok x) (.ok y) blocked origin heading).run s).state.nearestWithin x y
      config.threshold = some i := by
  have outcome := waypointPlaced hs config (.ok x) (.ok y) blocked origin heading
  generalize (placeWaypoint config (.ok x) (.ok y) blocked origin heading).run s = o
    at outcome placed ⊢
  cases outcome with
  | visited ha hb near =>
    cases ha
    cases hb
    cases placed
    rw [mergePosition_of_not_smoothing off]
    exact near
  | @first a b flags ha hb _ empty =>
    cases ha
    cases hb
    cases placed
    have above : ∀ d ∈ s.squaredDistances x y, 0.0 < d := by
      intro d hd
      have length := List.length_pos_of_mem hd
      rw [length_squaredDistances, empty] at length
      exact absurd length (Nat.lt_irrefl 0)
    exact nearestWithin_newest (bare_push s x y flags false) hx hy positive above
  | @linked a b flags h o ha hb _ _ _ _ far =>
    cases ha
    cases hb
    cases placed
    have numbers := finite.numbers hx hy
    have above : ∀ d ∈ s.squaredDistances x y, 0.0 < d := by
      intro d hd
      exact (LawfulScalar.lt_or_lt positive (numbers d hd)).resolve_right
        ((nearestWithin_eq_none_iff numbers).1 far d hd)
    exact nearestWithin_newest (bare_push_joined s x y flags false o h) hx hy positive above
  | refused _ => cases placed

end Spot

/-! ## Objects -/

section Object

variable {config : Config K} {o i : Nat} {h : Heading} (off : config.smoothing = false)
  (hs : s.WellFormed)

include off hs

omit [LawfulDistance K] in
/-- A report of a known object from where it is linked already changes nothing. -/
theorem run_placeObject_of_linked (near : s.nearestWithin x y config.threshold = some i)
    (object : s.isObject i = true) (there : s.link o h = some (.leadsTo i))
    (back : s.link i h.opposite = some (.leadsTo o)) :
    ((placeObject config (.int o) (.ok x) (.ok y) (.ok h)).run s).result = .ok i ∧
      ((placeObject config (.int o) (.ok x) (.ok y) (.ok h)).run s).state = s := by
  rw [run_placeObject_of_object hs config (lt_size_of_link there) x y h near object,
    mergePosition_of_not_smoothing off]
  exact ⟨rfl, joined_eq_self there back⟩

variable (lt : o < s.size)

include lt

theorem run_placeObject_of_joined (near : s.nearestWithin x y config.threshold = some i)
    (object : s.isObject i = true) :
    ((placeObject config (.int o) (.ok x) (.ok y) (.ok h)).run (s.joined o h i)).result = .ok i ∧
      ((placeObject config (.int o) (.ok x) (.ok y) (.ok h)).run (s.joined o h i)).state =
        s.joined o h i := by
  have known := lt_size_of_nearestWithin near
  have bare : (s.joined o h i).bare = s.bare := funext fun _ => bare_joined ..
  apply run_placeObject_of_linked off (hs.joined lt known h)
  · rw [nearestWithin_congr bare, near]
  · rw [isObject_congr bare, object]
  · exact link_joined_near lt known h
  · exact link_joined_far lt known h

variable (hx : Scalar.isFinite x = true) (hy : Scalar.isFinite y = true)

include hx hy

/-- A new object is found again if all older waypoints are at a distance. -/
theorem run_placeObject_of_newest (positive : (0.0 : K) < Scalar.square config.threshold)
    (above : ∀ d ∈ s.squaredDistances x y, 0.0 < d) :
    ((placeObject config (.int o) (.ok x) (.ok y) (.ok h)).run (s.withObject x y o h)).result =
        .ok s.size ∧
      ((placeObject config (.int o) (.ok x) (.ok y) (.ok h)).run (s.withObject x y o h)).state =
        s.withObject x y o h := by
  have added := bare_withObject s x y o h
  apply run_placeObject_of_linked off (hs.withObject lt x y h)
  · exact nearestWithin_newest added hx hy positive above
  · rw [isObject_eq, added, if_pos rfl]
    rfl
  · exact link_withObject_near lt x y h
  · exact link_withObject_far lt x y h

omit off in
/-- A new object is not found again if an older waypoint is not at a distance. -/
theorem run_placeObject_of_tie
    (hidden : ∀ {k : Nat}, s.nearestWithin x y config.threshold = some k → s.isObject k = false)
    (tie : ∃ d ∈ s.squaredDistances x y, ¬ 0.0 < d) :
    ((placeObject config (.int o) (.ok x) (.ok y) (.ok h)).run (s.withObject x y o h)).result =
        .ok (s.size + 1) ∧
      ((placeObject config (.int o) (.ok x) (.ok y) (.ok h)).run
        (s.withObject x y o h)).state.size = s.size + 2 := by
  obtain ⟨d, hd, tie⟩ := tie
  have added := bare_withObject s x y o h
  have size := size_withObject s x y o h
  have hidden' : ∀ {k : Nat}, (s.withObject x y o h).nearestWithin x y config.threshold = some k →
      (s.withObject x y o h).isObject k = false := by
    intro k found
    obtain ⟨found, older⟩ := nearestWithin_older added hx hy hd tie found
    rw [isObject_eq, added, if_neg (Nat.ne_of_lt older), ← isObject_eq]
    exact hidden found
  rw [run_placeObject_of_hidden (hs.withObject lt x y h) config (by omega) x y h hidden', size]
  exact ⟨rfl, by rw [size_withObject, size]⟩

omit lt in
theorem run_placeObject_again (positive : (0.0 : K) < Scalar.square config.threshold)
    {origin : Json} {heading : Checked Heading}
    (placed : ((placeObject config origin (.ok x) (.ok y) heading).run s).result = .ok i) :
    let first := ((placeObject config origin (.ok x) (.ok y) heading).run s).state
    let again := (placeObject config origin (.ok x) (.ok y) heading).run first
    (i < s.size ∨ (∀ d ∈ s.squaredDistances x y, 0.0 < d) →
      again.result = .ok i ∧ again.state = first) ∧
    (¬ i < s.size → (∃ d ∈ s.squaredDistances x y, ¬ 0.0 < d) →
      again.result = .ok (i + 1) ∧ again.state.size = i + 2) := by
  have outcome := objectPlaced hs config origin (.ok x) (.ok y) heading
  generalize (placeObject config origin (.ok x) (.ok y) heading).run s = made at outcome placed
  cases outcome with
  | sighted ha hb hh ho lt near object =>
    cases ha
    cases hb
    cases placed
    subst hh ho
    dsimp only
    rw [mergePosition_of_not_smoothing off]
    exact ⟨fun _ => run_placeObject_of_joined off hs lt near object,
      fun unknown => absurd (lt_size_of_nearestWithin near) unknown⟩
  | created ha hb hh ho lt hidden =>
    cases ha
    cases hb
    cases placed
    subst hh ho
    dsimp only
    exact ⟨fun apart => run_placeObject_of_newest off hs lt hx hy positive
        (apart.resolve_left (Nat.lt_irrefl _)),
      fun _ tie => run_placeObject_of_tie hs lt hx hy hidden tie⟩
  | refused _ => cases placed

end Object

end Store

namespace Request

open Store

variable {g : Graph K}

omit [Scalar K] in
theorem ok_of_map_id {r : Checked Nat} {i : Nat} (h : r.map (Answer.id (K := K)) = .ok (.id i)) :
    r = .ok i := by
  cases r with
  | error e => cases h
  | ok j => cases h; rfl

omit [Scalar K] in
theorem map_id_of_toOption {r : Checked Nat} {i : Nat} (h : r.toOption = some i) :
    r.map (Answer.id (K := K)) = .ok (.id i) :=
  congrArg (Except.map Answer.id) (Checked.eq_ok_of_toOption h)

/-! ## Spots reported again -/

section Spot

variable [LawfulDistance K] {x y : K} {i : Nat} (off : g.config.smoothing = false)
  (hx : Scalar.isFinite x = true) (hy : Scalar.isFinite y = true)

omit [LawfulDistance K] in
include off in
theorem perform_placeWaypoint_of_near
    (near : g.store.nearestWithin x y g.config.threshold = some i)
    (blocked : Checked (Compass Bool)) (origin : Json) (heading : Checked Heading) :
    ((placeWaypoint (.ok x) (.ok y) blocked origin heading).perform.run g).result = .ok (.id i) ∧
      ((placeWaypoint (.ok x) (.ok y) blocked origin heading).perform.run g).state = g := by
  rw [perform_of_near near, mergePosition_of_not_smoothing off]
  exact ⟨rfl, rfl⟩

include off hx hy

theorem nearestWithin_perform (positive : (0.0 : K) < Scalar.square g.config.threshold)
    (hg : g.store.WellFormed) (finite : g.store.IsFinite) {blocked : Checked (Compass Bool)}
    {origin : Json} {heading : Checked Heading}
    (placed : ((placeWaypoint (.ok x) (.ok y) blocked origin heading).perform.run g).result =
      .ok (.id i)) :
    ((placeWaypoint (.ok x) (.ok y) blocked origin heading).perform.run g).state.store.nearestWithin
      x y g.config.threshold = some i := by
  rw [perform, Call.run_map] at placed ⊢
  exact nearestWithin_placeWaypoint off positive hx hy hg finite (ok_of_map_id placed)

/-- After placements, a spot near a waypoint is still near one. -/
theorem exists_nearestWithin_run (hg : g.store.WellFormed) (finite : g.store.IsFinite)
    (near : g.store.nearestWithin x y g.config.threshold = some i)
    {session : List (Request K)} (hs : ∀ r ∈ session, r.isFinitePlacement = true) :
    ∃ k < (run g session).store.size,
      (run g session).store.nearestWithin x y g.config.threshold = some k := by
  have steps := (growth_run hg off hs).1
  exact ((covers_of_nearestWithin near).growths steps).exists_nearestWithin
    (finite.growths steps) hx hy

end Spot

/-- While positions are not smoothed, a spot that was placed is never placed again. Whatever
placements come in between, another report of it succeeds and leaves the map as it is, be its
other arguments what they may; made at once, it answers the same id. -/
theorem placeWaypoint_again [LawfulDistance K] {config : Config K} {before after : List (Request K)}
    {x y : K} {blocked : Checked (Compass Bool)} {origin : Json} {heading : Checked Heading}
    {i : Nat} (off : config.smoothing = false)
    (positive : (0.0 : K) < Scalar.square config.threshold)
    (hbefore : ∀ r ∈ before, r.isFinitePlacement = true)
    (hafter : ∀ r ∈ after, r.isFinitePlacement = true)
    (hx : Scalar.isFinite x = true) (hy : Scalar.isFinite y = true)
    (placed : ((placeWaypoint (.ok x) (.ok y) blocked origin heading).perform.run
      (run (.empty config) before)).result = .ok (.id i)) :
    let g := run (.empty config)
      (before ++ placeWaypoint (.ok x) (.ok y) blocked origin heading :: after)
    ∀ (blocked' : Checked (Compass Bool)) (origin' : Json) (heading' : Checked Heading),
      let again := (placeWaypoint (.ok x) (.ok y) blocked' origin' heading').perform.run g
      again.state = g ∧ (∃ k < g.store.size, again.result = .ok (.id k)) ∧
        (after = [] → again.result = .ok (.id i)) := by
  intro g blocked' origin' heading' again
  let first : Request K := placeWaypoint (.ok x) (.ok y) blocked origin heading
  have finite : first.isFinitePlacement = true := Bool.and_eq_true_iff.2 ⟨hx, hy⟩
  have split : g = run (first.perform.run (run (.empty config) before)).state after :=
    run_append ..
  obtain ⟨steps, same⟩ := growth_run (g := .empty config) wellFormed_empty off hbefore
  have wellFormed : (run (.empty config) before).store.WellFormed :=
    Reachable.wellFormed ⟨config, before, rfl⟩
  have isFinite := isFinite_empty.growths steps
  clear_value g
  generalize run (.empty config) before = g₀ at *
  obtain rfl : g₀.config = config := same
  -- The first report leaves a waypoint near the spot, and no placement takes it away.
  have near := nearestWithin_perform off hx hy positive wellFormed isFinite placed
  obtain ⟨step, kept⟩ := growth_perform wellFormed off finite
  have wellFormed₁ := wellFormed.changes (changes_perform first wellFormed)
  generalize (first.perform.run g₀).state = g₁ at *
  rw [← kept] at off near
  obtain ⟨k, known, found⟩ :=
    exists_nearestWithin_run off hx hy wellFormed₁ (step.isFinite isFinite) near hafter
  have last := (growth_run wellFormed₁ off hafter).2
  rw [← split] at known found last
  rw [← last] at found
  obtain ⟨result, state⟩ :=
    perform_placeWaypoint_of_near (last ▸ off) found blocked' origin' heading'
  refine ⟨state, ⟨k, known, result⟩, ?_⟩
  rintro rfl
  subst split
  exact (perform_placeWaypoint_of_near off near blocked' origin' heading').1

/-- A report near the second of two spots, an object nearer to it, and a report from nowhere. -/
def interlude : List (Request Float) :=
  [spot 0.35 (.int 1), sighting 0.32 .north, spot 1.0 (.int 7)]

theorem placeWaypoint_again_interlude :
    ((spot 0.3 (.int 0)).perform.run (run (.empty .default) [spot 0.0 .null])).result =
      .ok (.id 1) ∧
    let g := run (.empty .default) ([spot 0.0 .null] ++ spot 0.3 (.int 0) :: interlude)
    ((spot 0.3 .null).perform.run g).state = g ∧
      ∃ k < g.store.size, ((spot 0.3 .null).perform.run g).result = .ok (.id k) := by
  have placed : ((spot 0.3 (.int 0)).perform.run (run (.empty .default) [spot 0.0 .null])).result =
      .ok (.id 1) := by
    simp only [spot, perform, Call.run_map]
    exact map_id_of_toOption (by decide +kernel)
  have hinterlude : ∀ r ∈ interlude, r.isFinitePlacement = true := by decide +kernel
  have repeated := placeWaypoint_again (by rfl) (by decide +kernel) (by decide +kernel) hinterlude
    (by decide +kernel) (by decide +kernel) placed (.ok (.replicate false)) .null (.ok .east)
  unfold spot at *
  exact ⟨placed, repeated.1, repeated.2.1⟩

/-! ## Objects reported again -/

/-- While positions are not smoothed, a report of an object made again at once answers the same
id and leaves the map as it is, if it came to a known object or if all older waypoints are at a
distance from the new one. Otherwise it makes one more object. -/
theorem placeObject_again [LawfulDistance K] {g : Graph K} (hg : g.store.Reachable)
    (off : g.config.smoothing = false) (positive : (0.0 : K) < Scalar.square g.config.threshold)
    {origin : Json} {x y : K} {heading : Checked Heading} {i : Nat}
    (hx : Scalar.isFinite x = true) (hy : Scalar.isFinite y = true)
    (placed : ((placeObject origin (.ok x) (.ok y) heading).perform.run g).result =
      .ok (.id i)) :
    let first := (placeObject origin (.ok x) (.ok y) heading).perform.run g
    let again := (placeObject origin (.ok x) (.ok y) heading).perform.run first.state
    (i < g.store.size ∨ (∀ d ∈ g.store.squaredDistances x y, 0.0 < d) →
      again.result = .ok (.id i) ∧ again.state = first.state) ∧
    (¬ i < g.store.size → (∃ d ∈ g.store.squaredDistances x y, ¬ 0.0 < d) →
      again.result = .ok (.id (i + 1)) ∧ again.state.store.size = i + 2) := by
  intro first again
  rw [perform_placeObject] at placed
  obtain ⟨known, tied⟩ := run_placeObject_again off hg.wellFormed hx hy positive
    (ok_of_map_id placed)
  simp only [first, again, perform_placeObject]
  constructor
  · intro apart
    obtain ⟨result, state⟩ := known apart
    rw [result, state]
    exact ⟨rfl, rfl⟩
  · intro new tie
    obtain ⟨result, size⟩ := tied new tie
    rw [result]
    exact ⟨rfl, size⟩

theorem placeObject_again_aside :
    let g := run (.empty .default) [spot 0.0 .null]
    let first := (sighting 0.05 .north).perform.run g
    first.result = .ok (.id 1) ∧
      ((sighting 0.05 .north).perform.run first.state).result = .ok (.id 1) ∧
      ((sighting 0.05 .north).perform.run first.state).state = first.state := by
  have placed : ((sighting 0.05 .north).perform.run
      (run (.empty .default) [spot 0.0 .null])).result = .ok (.id 1) := by
    simp only [sighting, perform_placeObject]
    exact map_id_of_toOption (by decide +kernel)
  have repeated := placeObject_again ⟨_, _, rfl⟩ rfl (by decide +kernel) (by decide +kernel)
    (by decide +kernel) placed
  have apart := repeated.1 (.inr (by decide +kernel))
  unfold sighting at *
  exact ⟨placed, apart.1, apart.2⟩

/-- The second report of an object does not find the first where a waypoint without one is. -/
theorem placeObject_again_coincident :
    let g := run (.empty .default) [spot 0.0 .null]
    let first := (sighting 0.0 .north).perform.run g
    g.config.smoothing = false ∧ first.result = .ok (.id 1) ∧
      ((sighting 0.0 .north).perform.run first.state).result = .ok (.id 2) := by
  refine ⟨by decide +kernel, ?_, ?_⟩
  · simp only [sighting, perform_placeObject]
    exact map_id_of_toOption (by decide +kernel)
  · simp only [sighting, perform_placeObject]
    exact map_id_of_toOption (by decide +kernel)

end Request

end WaypointMap
