import WaypointMap.Proofs.Graph.Change
import WaypointMap.Proofs.Store.Proximity

/-!
# What placements come to

A report of a spot is a visit, makes a waypoint, or is refused; a report of an object is a
sighting, makes an object, or is refused. Each outcome is given as a whole, with the conditions
under which it comes about, so that nothing else has to look into a placement. A refused report
leaves the store as it was.
-/

namespace WaypointMap

namespace Store

variable {K : Type} [Scalar K]

theorem mergePosition_of_not_smoothing {config : Config K} (off : config.smoothing = false)
    (i : Nat) (x y : K) (s : Store K) : mergePosition config i x y s = s := by
  simp [mergePosition, off]

/-! ## Spots -/

/-- Near a waypoint, nothing but the coordinates is looked at. -/
theorem run_placeWaypoint_of_near {s : Store K} {config : Config K} {x y : K} {i : Nat}
    (near : s.nearestWithin x y config.threshold = some i) (blocked : Checked (Compass Bool))
    (origin : Json) (heading : Checked Heading) :
    (placeWaypoint config (.ok x) (.ok y) blocked origin heading).run s =
      ⟨.ok i, mergePosition config i x y s, [.visited i]⟩ := by
  simp only [placeWaypoint, Call.run_bind, Call.run_ask, nearby_ok, near]
  rfl

/-- The first waypoint of a map needs its blocked flags and nothing else. -/
theorem run_placeWaypoint_of_empty {s : Store K} (empty : s.size = 0) (config : Config K) (x y : K)
    (blocked : Checked (Compass Bool)) (origin : Json) (heading : Checked Heading) :
    (placeWaypoint config (.ok x) (.ok y) blocked origin heading).run s =
      match blocked with
      | .error e => ⟨.error e, s, []⟩
      | .ok flags => ⟨.ok s.size, s.push x y flags false, [.createdFirst s.size x y]⟩ := by
  simp only [placeWaypoint, Call.run_bind, Call.run_ask, nearby_of_size_eq_zero empty,
    Call.run_read, if_pos empty]
  cases blocked with
  | error e => rfl
  | ok flags => rfl

/-- Far from all waypoints, the heading is looked at first, then the origin, and then the blocked
flags. -/
theorem run_placeWaypoint_of_far {s : Store K} (hs : s.WellFormed) (inhabited : s.size ≠ 0)
    {config : Config K} {x y : K} (far : s.nearestWithin x y config.threshold = none)
    (blocked : Checked (Compass Bool)) (origin : Json) (heading : Checked Heading) :
    (placeWaypoint config (.ok x) (.ok y) blocked origin heading).run s =
      match heading with
      | .error e => ⟨.error e, s, []⟩
      | .ok h =>
        match s.resolve origin with
        | .error e => ⟨.error e, s, []⟩
        | .ok o =>
          match blocked with
          | .error e => ⟨.error e, s, []⟩
          | .ok flags =>
            ⟨.ok s.size, (s.push x y flags false).joined o h s.size,
              (s.push x y flags false).joinedLog o h s.size ++ [.created s.size x y h o]⟩ := by
  simp only [placeWaypoint, Call.run_bind, Call.run_ask, nearby_ok, far, Call.run_read,
    if_neg inhabited, Call.run_check]
  cases heading with
  | error e => rfl
  | ok h =>
  cases s.resolve origin with
  | error e => rfl
  | ok o =>
  cases blocked with
  | error e => rfl
  | ok flags =>
  obtain ⟨_, _, _, ⟨⟩, ⟨⟩, ⟨⟩, made⟩ | ⟨e, ⟨⟩⟩ :=
    run_create (.ok x) (.ok y) (.ok flags) false s
  simp only [made, run_join (hs.push x y flags false).inRange, Call.run_log, Call.run_pure]
  rfl

/-- The outcomes of a report of a spot. -/
inductive WaypointPlaced (config : Config K) (x y : Checked K)
    (blocked : Checked (Compass Bool)) (origin : Json) (heading : Checked Heading)
    (s : Store K) : Outcome (Event K) (Store K) Nat → Prop where
  | visited {a b : K} {i : Nat} (hx : x = .ok a) (hy : y = .ok b)
      (near : s.nearestWithin a b config.threshold = some i) :
      WaypointPlaced config x y blocked origin heading s
        ⟨.ok i, mergePosition config i a b s, [.visited i]⟩
  | first {a b : K} {flags : Compass Bool} (hx : x = .ok a) (hy : y = .ok b)
      (hflags : blocked = .ok flags) (empty : s.size = 0) :
      WaypointPlaced config x y blocked origin heading s
        ⟨.ok s.size, s.push a b flags false, [.createdFirst s.size a b]⟩
  | linked {a b : K} {flags : Compass Bool} {h : Heading} {o : Nat} (hx : x = .ok a)
      (hy : y = .ok b) (hflags : blocked = .ok flags) (hh : heading = .ok h)
      (ho : origin = .int o) (lt : o < s.size)
      (far : s.nearestWithin a b config.threshold = none) :
      WaypointPlaced config x y blocked origin heading s
        ⟨.ok s.size, (s.push a b flags false).joined o h s.size,
          (s.push a b flags false).joinedLog o h s.size ++ [.created s.size a b h o]⟩
  | refused {e : Error}
      (far : ∀ {a b : K}, x = .ok a → y = .ok b → s.nearestWithin a b config.threshold = none) :
      WaypointPlaced config x y blocked origin heading s ⟨.error e, s, []⟩

theorem waypointPlaced {s : Store K} (hs : s.WellFormed) (config : Config K) (x y : Checked K)
    (blocked : Checked (Compass Bool)) (origin : Json) (heading : Checked Heading) :
    WaypointPlaced config x y blocked origin heading s
      ((placeWaypoint config x y blocked origin heading).run s) := by
  -- An empty store looks at no coordinate until the waypoint is made.
  by_cases empty : s.size = 0
  · simp only [placeWaypoint, Call.run_bind, Call.run_ask, nearby_of_size_eq_zero empty,
      Call.run_read, if_pos empty]
    obtain ⟨a, b, flags, rfl, rfl, rfl, hr⟩ | ⟨e, hr⟩ := run_create x y blocked false s
    · simp only [hr, Call.run_check, Call.run_log, Call.run_pure]
      exact .first rfl rfl rfl empty
    · simp only [hr]
      exact .refused fun _ _ => nearestWithin_of_size_eq_zero empty _ _ _
  cases x with
  | error e =>
    simp only [placeWaypoint, Call.run_bind, Call.run_ask, nearby_error_left empty]
    refine .refused ?_
    rintro _ _ ⟨⟩
  | ok a =>
  cases y with
  | error e =>
    simp only [placeWaypoint, Call.run_bind, Call.run_ask, nearby_error_right empty]
    refine .refused ?_
    rintro _ _ - ⟨⟩
  | ok b =>
  cases near : s.nearestWithin a b config.threshold with
  | some i =>
    rw [run_placeWaypoint_of_near near]
    exact .visited rfl rfl near
  | none =>
    have far : ∀ {a' b' : K}, (.ok a : Checked K) = .ok a' → (.ok b : Checked K) = .ok b' →
        s.nearestWithin a' b' config.threshold = none := by
      rintro a' b' ⟨⟩ ⟨⟩
      exact near
    rw [run_placeWaypoint_of_far hs empty near]
    cases heading with
    | error e => exact .refused far
    | ok h =>
    cases ho : s.resolve origin with
    | error e => exact .refused far
    | ok o =>
    obtain ⟨rfl, lt⟩ := resolve_eq_ok_iff.1 ho
    cases blocked with
    | error e => exact .refused far
    | ok flags => exact .linked rfl rfl rfl rfl rfl lt near

/-! ## Objects -/

/-- A store with one more object, which is seen from `o` in a heading. -/
def withObject (s : Store K) (x y : K) (o : Nat) (h : Heading) : Store K :=
  (s.push x y (.replicate true) true).joined o h s.size

section WithObject

variable {s : Store K} {o : Nat} (lt : o < s.size) (x y : K) (h : Heading)

omit [Scalar K]

@[simp] theorem size_withObject (s : Store K) (x y : K) (o : Nat) (h : Heading) :
    (s.withObject x y o h).size = s.size + 1 := by
  rw [withObject, size_joined, size_push]

include lt

theorem WellFormed.withObject (hs : s.WellFormed) : (s.withObject x y o h).WellFormed :=
  (hs.push x y (.replicate true) true).joined (by rw [size_push]; omega)
    (by rw [size_push]; omega) h

theorem link_withObject_near : (s.withObject x y o h).link o h = some (.leadsTo s.size) :=
  link_joined_near (by rw [size_push]; omega) (by rw [size_push]; omega) h

theorem link_withObject_far :
    (s.withObject x y o h).link s.size h.opposite = some (.leadsTo o) :=
  link_joined_far (by rw [size_push]; omega) (by rw [size_push]; omega) h

end WithObject

theorem nearbyObject_ok (s : Store K) (x y threshold : K) :
    s.nearbyObject (.ok x) (.ok y) threshold =
      .ok ((s.nearestWithin x y threshold).filter s.isObject) := by
  rw [nearbyObject, nearby_ok]
  rfl

theorem nearbyObject_error {s : Store K} {x y : Checked K} {threshold : K} {e : Error}
    (h : s.nearby x y threshold = .error e) : s.nearbyObject x y threshold = .error e := by
  rw [nearbyObject, h]
  rfl

theorem filter_isObject_eq_none_iff {s : Store K} {x y threshold : K} :
    (s.nearestWithin x y threshold).filter s.isObject = none ↔
      ∀ {i : Nat}, s.nearestWithin x y threshold = some i → s.isObject i = false := by
  simp only [Option.filter_eq_none_iff, Bool.not_eq_true]

/-- At a point, the heading is looked at first, then the origin, and only then what is nearby. -/
theorem run_placeObject_ok {s : Store K} (hs : s.WellFormed) (config : Config K) (origin : Json)
    (x y : K) (heading : Checked Heading) :
    (placeObject config origin (.ok x) (.ok y) heading).run s =
      match heading with
      | .error e => ⟨.error e, s, []⟩
      | .ok h =>
        match s.resolve origin with
        | .error e => ⟨.error e, s, []⟩
        | .ok o =>
          match (s.nearestWithin x y config.threshold).filter s.isObject with
          | some i =>
            ⟨.ok i, (mergePosition config i x y s).joined o h i,
              .sighted i :: (mergePosition config i x y s).joinedLog o h i⟩
          | none =>
            ⟨.ok s.size, s.withObject x y o h, .createdObject s.size x y ::
              (s.push x y (.replicate true) true).joinedLog o h s.size⟩ := by
  simp only [placeObject, Call.run_bind, Call.run_ask, Call.run_check]
  cases heading with
  | error e => rfl
  | ok h =>
  cases s.resolve origin with
  | error e => rfl
  | ok o =>
  simp only [nearbyObject_ok]
  cases (s.nearestWithin x y config.threshold).filter s.isObject with
  | some i =>
    have moved := hs.changes (changes_mergePosition config i x y s)
    simp only [Call.run_bind, Call.run_check, Call.run_log, Call.run_update,
      run_join moved.inRange, Call.run_pure, List.nil_append, List.append_nil,
      List.singleton_append]
  | none =>
    obtain ⟨_, _, _, ⟨⟩, ⟨⟩, ⟨⟩, made⟩ | ⟨e, ⟨⟩⟩ :=
      run_create (.ok x) (.ok y) (.ok (.replicate true)) true s
    simp only [made, Call.run_bind, Call.run_check, Call.run_log,
      run_join (hs.push x y (.replicate true) true).inRange, Call.run_pure, List.nil_append,
      List.append_nil, List.singleton_append, withObject]

/-- The outcomes of a report of an object. -/
inductive ObjectPlaced (config : Config K) (origin : Json) (x y : Checked K)
    (heading : Checked Heading) (s : Store K) : Outcome (Event K) (Store K) Nat → Prop where
  | sighted {a b : K} {h : Heading} {o i : Nat} (hx : x = .ok a) (hy : y = .ok b)
      (hh : heading = .ok h) (ho : origin = .int o) (lt : o < s.size)
      (near : s.nearestWithin a b config.threshold = some i) (object : s.isObject i = true) :
      ObjectPlaced config origin x y heading s
        ⟨.ok i, (mergePosition config i a b s).joined o h i,
          .sighted i :: (mergePosition config i a b s).joinedLog o h i⟩
  | created {a b : K} {h : Heading} {o : Nat} (hx : x = .ok a) (hy : y = .ok b)
      (hh : heading = .ok h) (ho : origin = .int o) (lt : o < s.size)
      (hidden : ∀ {i : Nat}, s.nearestWithin a b config.threshold = some i →
        s.isObject i = false) :
      ObjectPlaced config origin x y heading s
        ⟨.ok s.size, s.withObject a b o h,
          .createdObject s.size a b :: (s.push a b (.replicate true) true).joinedLog o h s.size⟩
  | refused {e : Error}
      (bad : ∀ {a b : K} {h : Heading} {o : Nat}, x = .ok a → y = .ok b → heading = .ok h →
        origin = .int o → ¬ o < s.size) :
      ObjectPlaced config origin x y heading s ⟨.error e, s, []⟩

theorem objectPlaced {s : Store K} (hs : s.WellFormed) (config : Config K) (origin : Json)
    (x y : Checked K) (heading : Checked Heading) :
    ObjectPlaced config origin x y heading s
      ((placeObject config origin x y heading).run s) := by
  cases heading with
  | error e =>
    refine .refused ?_
    rintro _ _ _ _ - - ⟨⟩
  | ok h =>
  cases ho : s.resolve origin with
  | error e =>
    simp only [placeObject, Call.run_bind, Call.run_ask, Call.run_check, ho]
    refine .refused fun {a b h' o} _ _ _ hint lt => ?_
    rw [resolve_eq_ok_iff.2 ⟨hint, lt⟩] at ho
    cases ho
  | ok o =>
  have inhabited : s.size ≠ 0 := Nat.ne_zero_of_lt (resolve_eq_ok_iff.1 ho).2
  cases x with
  | error e =>
    simp only [placeObject, Call.run_bind, Call.run_ask, Call.run_check, ho,
      nearbyObject_error (nearby_error_left inhabited e y config.threshold)]
    refine .refused ?_
    rintro _ _ _ _ ⟨⟩
  | ok a =>
  cases y with
  | error e =>
    simp only [placeObject, Call.run_bind, Call.run_ask, Call.run_check, ho,
      nearbyObject_error (nearby_error_right inhabited a e config.threshold)]
    refine .refused ?_
    rintro _ _ _ _ - ⟨⟩
  | ok b =>
  simp only [run_placeObject_ok hs, ho]
  obtain ⟨rfl, lt⟩ := resolve_eq_ok_iff.1 ho
  cases found : (s.nearestWithin a b config.threshold).filter s.isObject with
  | some i =>
    obtain ⟨near, object⟩ := Option.filter_eq_some_iff.1 found
    exact .sighted rfl rfl rfl rfl lt near object
  | none => exact .created rfl rfl rfl rfl lt (filter_isObject_eq_none_iff.1 found)

section Object

variable {s : Store K} (hs : s.WellFormed) (config : Config K) {o : Nat} (lt : o < s.size)
  (x y : K) (h : Heading)

include hs lt

theorem run_placeObject_of_object {i : Nat}
    (near : s.nearestWithin x y config.threshold = some i) (object : s.isObject i = true) :
    (placeObject config (.int o) (.ok x) (.ok y) (.ok h)).run s =
      ⟨.ok i, (mergePosition config i x y s).joined o h i,
        .sighted i :: (mergePosition config i x y s).joinedLog o h i⟩ := by
  simp only [run_placeObject_ok hs, resolve_eq_ok_iff.2 ⟨rfl, lt⟩,
    Option.filter_eq_some_iff.2 ⟨near, object⟩]

theorem run_placeObject_of_hidden
    (hidden : ∀ {i : Nat}, s.nearestWithin x y config.threshold = some i →
      s.isObject i = false) :
    (placeObject config (.int o) (.ok x) (.ok y) (.ok h)).run s =
      ⟨.ok s.size, s.withObject x y o h,
        .createdObject s.size x y :: (s.push x y (.replicate true) true).joinedLog o h s.size⟩ := by
  simp only [run_placeObject_ok hs, resolve_eq_ok_iff.2 ⟨rfl, lt⟩,
    filter_isObject_eq_none_iff.2 hidden]

end Object

end Store

end WaypointMap
