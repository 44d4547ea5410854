import WaypointMap.Proofs.Graph.Growth
import WaypointMap.Proofs.Graph.History

/-!
# What is never undone

Whatever is asked of a graph later on, a waypoint keeps its id and stays an object or none, and
what was explored of it stays explored. It also stays at its spot for as long as no position is
smoothed.
-/

namespace WaypointMap

variable {K : Type}

theorem Waypoint.isFrontier_iff {w : Waypoint K} :
    w.isFrontier = true ↔ ∃ h, w.links.get h = .unknown := by
  rw [isFrontier, List.contains_iff_mem, Compass.mem_toList_iff]

namespace Store

variable {s t u : Store K}

/-! ## Ids, objects and what is explored -/

/-- Whether a store may become another in the course of time: no waypoint is lost, changes its
id or its kind, or has a link unexplored again. -/
structure Onward (s t : Store K) : Prop where
  kept : ∀ {i : Nat} {w : Waypoint K}, s.bare i = some w →
    ∃ v, t.bare i = some v ∧ v.id = w.id ∧ v.hasObject = w.hasObject
  explored : ∀ {i : Nat} {h : Heading}, i < s.size → t.link i h = some .unknown →
    s.link i h = some .unknown

theorem Onward.refl (s : Store K) : s.Onward s :=
  ⟨fun {_ w} hw => ⟨w, hw, rfl, rfl⟩, fun _ open_ => open_⟩

theorem Onward.trans (first : s.Onward t) (second : t.Onward u) : s.Onward u := by
  constructor
  · intro i w hw
    obtain ⟨v, hv, id, object⟩ := first.kept hw
    obtain ⟨v', hv', id', object'⟩ := second.kept hv
    exact ⟨v', hv', id'.trans id, object'.trans object⟩
  · intro i h hi unexplored
    obtain ⟨w, hw⟩ := exists_waypoint hi
    obtain ⟨v, hv, -⟩ := first.kept (bare_of_getElem? hw)
    exact first.explored hi (second.explored (lt_size_of_bare hv) unexplored)

theorem bare_moveTo_eq_some {i j : Nat} {x y : K} {w : Waypoint K} (hw : s.bare j = some w) :
    ∃ v, (s.moveTo i x y).bare j = some v ∧ v.id = w.id ∧ v.hasObject = w.hasObject := by
  obtain ⟨u, hu, rfl⟩ := Option.map_eq_some_iff.1 hw
  simp only [bare, moveTo, getElem?_adjust, hu]
  split
  · exact ⟨_, rfl, rfl, rfl⟩
  · exact ⟨_, rfl, rfl, rfl⟩

theorem Onward.change (c : Change s t) : s.Onward t := by
  cases c with
  | push x y blocked hasObject =>
    constructor
    · intro i w hw
      have older : i ≠ s.size := Nat.ne_of_lt (lt_size_of_bare hw)
      exact ⟨w, by rw [bare_push, if_neg older, hw], rfl, rfl⟩
    · intro i h hi unexplored
      rwa [link_push, if_neg (Nat.ne_of_lt hi)] at unexplored
  | moveTo i x y =>
    constructor
    · exact bare_moveTo_eq_some
    · intro j h _ unexplored
      rwa [link_moveTo] at unexplored
  | joined hi hj h =>
    constructor
    · intro a w hw
      exact ⟨w, by rw [bare_joined, hw], rfl, rfl⟩
    · intro a k _ unexplored
      rw [link_joined hi hj] at unexplored
      -- A slot that the join writes holds the new link or is blocked.
      split at unexplored
      · cases unexplored
      split at unexplored
      · cases unexplored
      split at unexplored
      · cases unexplored
      split at unexplored
      · cases unexplored
      · exact unexplored

theorem Onward.changes (c : Changes s t) : s.Onward t := by
  induction c with
  | refl => exact .refl s
  | tail _ last ih => exact ih.trans (.change last)

/-! ## Spots -/

/-- Whether all waypoints of a store are still in another, links apart. -/
def Stays (s t : Store K) : Prop :=
  ∀ ⦃i : Nat⦄ ⦃w : Waypoint K⦄, s.bare i = some w → t.bare i = some w

theorem Stays.refl (s : Store K) : s.Stays s := fun _ _ hw => hw

theorem Stays.trans (first : s.Stays t) (second : t.Stays u) : s.Stays u := fun _ _ hw =>
  second (first hw)

theorem stays_of_added {w : Waypoint K}
    (added : ∀ i, t.bare i = if i = s.size then some w else s.bare i) : s.Stays t := by
  intro i v hv
  rw [added, if_neg (Nat.ne_of_lt (lt_size_of_bare hv)), hv]

theorem stays_joined (s : Store K) (i : Nat) (h : Heading) (j : Nat) :
    s.Stays (s.joined i h j) := by
  intro a w hw
  rw [bare_joined, hw]

theorem stays_create (x y : Checked K) (blocked : Checked (Compass Bool)) (hasObject : Bool)
    (s : Store K) : s.Stays ((create x y blocked hasObject).run s).state := by
  obtain ⟨x', y', b, -, -, -, hr⟩ | ⟨e, hr⟩ := run_create x y blocked hasObject s
  · rw [hr]
    exact stays_of_added (bare_push s x' y' b hasObject)
  · rw [hr]
    exact .refl s

theorem stays_connect (hs : s.InRange) (a : Json) (heading : Checked Heading) (b : Json) :
    s.Stays ((connect a heading b).run s).state := by
  obtain ⟨i, j, h, -, -, -, -, -, hr⟩ | ⟨e, hr⟩ := run_connect hs a heading b
  · rw [hr]
    exact stays_joined s i h j
  · rw [hr]
    exact .refl s

variable [Scalar K] {config : Config K}

theorem stays_placeWaypoint (hs : s.WellFormed) (off : config.smoothing = false)
    (x y : Checked K) (blocked : Checked (Compass Bool)) (origin : Json)
    (heading : Checked Heading) :
    s.Stays ((placeWaypoint config x y blocked origin heading).run s).state := by
  have placed := waypointPlaced hs config x y blocked origin heading
  generalize (placeWaypoint config x y blocked origin heading).run s = outcome at placed
  cases placed with
  | visited _ _ _ =>
    rw [mergePosition_of_not_smoothing off]
    exact .refl s
  | first _ _ _ _ => exact stays_of_added fun _ => bare_push ..
  | linked _ _ _ _ _ _ _ => exact stays_of_added fun _ => bare_push_joined ..
  | refused _ => exact .refl s

theorem stays_placeObject (hs : s.WellFormed) (off : config.smoothing = false) (origin : Json)
    (x y : Checked K) (heading : Checked Heading) :
    s.Stays ((placeObject config origin x y heading).run s).state := by
  have placed := objectPlaced hs config origin x y heading
  generalize (placeObject config origin x y heading).run s = outcome at placed
  cases placed with
  | sighted _ _ _ _ _ _ _ =>
    rw [mergePosition_of_not_smoothing off]
    exact stays_joined ..
  | created _ _ _ _ _ _ => exact stays_of_added fun _ => bare_withObject ..
  | refused _ => exact .refl s

end Store

namespace Request

open Store

variable [Scalar K] {g : Graph K}

theorem stays_perform (hg : g.store.WellFormed) {r : Request K}
    (off : r.isPlacement = true → g.config.smoothing = false) :
    g.store.Stays (r.perform.run g).state.store := by
  cases r with
  | create x y blocked hasObject =>
    rw [perform, Call.run_map]
    exact stays_create x y blocked hasObject g.store
  | connect a heading b =>
    rw [perform, Call.run_map]
    exact stays_connect hg.inRange a heading b
  | placeWaypoint x y blocked origin heading =>
    rw [perform, Call.run_map]
    exact stays_placeWaypoint hg (off rfl) x y blocked origin heading
  | placeObject origin x y heading =>
    rw [perform, Call.run_map]
    exact stays_placeObject hg (off rfl) origin x y heading
  | configure config =>
    cases config with
    | error e => exact .refl g.store
    | ok config => exact .refl g.store
  | get id => exact .refl g.store
  | nearby x y => exact .refl g.store
  | isFrontier id => exact .refl g.store
  | pathToFrontier id => exact .refl g.store
  | pathToObject id => exact .refl g.store

/-- Whether positions are not smoothed at any placement of a session. -/
def IsSteady (g : Graph K) : List (Request K) → Prop
  | [] => True
  | r :: rest =>
    (r.isPlacement = true → g.config.smoothing = false) ∧ IsSteady (r.perform.run g).state rest

instance decidableIsSteady (g : Graph K) : (session : List (Request K)) →
    Decidable (IsSteady g session)
  | [] => .isTrue trivial
  | r :: rest =>
    have := decidableIsSteady (r.perform.run g).state rest
    inferInstanceAs (Decidable (_ ∧ _))

theorem stays_run (hg : g.store.WellFormed) {session : List (Request K)}
    (steady : IsSteady g session) : g.store.Stays (run g session).store := by
  induction session generalizing g with
  | nil => exact .refl g.store
  | cons r rest ih =>
    exact (stays_perform hg steady.1).trans
      (ih (hg.changes (changes_perform r hg)) steady.2)

/-- Whatever is asked of a graph later on, each of its waypoints keeps its place, its id and its
kind. A link that was explored is never unexplored again, so a waypoint that is no frontier
never becomes one. The coordinates stay the same if no placement in between smooths them. -/
theorem run_onward (hg : g.store.Reachable) (session : List (Request K)) {i : Nat}
    {w : Waypoint K} (hw : g.store.waypoints[i]? = some w) :
    ∃ v, (run g session).store.waypoints[i]? = some v ∧ w.id = i ∧ v.id = i ∧
      v.hasObject = w.hasObject ∧
      (∀ h, w.links.get h ≠ .unknown → v.links.get h ≠ .unknown) ∧
      (w.isFrontier = false → v.isFrontier = false) ∧
      (IsSteady g session → v.x = w.x ∧ v.y = w.y) := by
  have changes := changes_run hg.wellFormed session
  have onward := Onward.changes changes
  obtain ⟨b, hb, -, object⟩ := onward.kept (bare_of_getElem? hw)
  obtain ⟨v, hv, rfl⟩ := Option.map_eq_some_iff.1 hb
  have explored : ∀ h, w.links.get h ≠ .unknown → v.links.get h ≠ .unknown := by
    intro h known unexplored
    have later : (run g session).store.link i h = some .unknown := by
      rw [link, hv, Option.map_some, unexplored]
    have earlier := onward.explored (Array.getElem?_eq_some_iff.1 hw).1 later
    rw [link, hw, Option.map_some] at earlier
    exact known (Option.some.inj earlier)
  refine ⟨v, hv, hg.wellFormed.ids hw, (hg.wellFormed.changes changes).ids hv, object, explored,
    ?_, ?_⟩
  · intro closed
    rw [← Bool.not_eq_true, Waypoint.isFrontier_iff] at closed ⊢
    rintro ⟨h, unexplored⟩
    exact explored h (fun known => closed ⟨h, known⟩) unexplored
  · intro steady
    have same := stays_run hg.wellFormed steady (bare_of_getElem? hw)
    rw [hb] at same
    have bare : v.bare = w.bare := Option.some.inj same
    exact ⟨(congrArg Waypoint.x bare :), (congrArg Waypoint.y bare :)⟩

/-- Smoothing goes on and off again, a waypoint is linked to itself, an object takes the place
of another, and an object is refused. -/
def aftermath : List (Request Float) :=
  [.configure (.ok ⟨0.1, true⟩), .connect (.int 0) (.ok .west) (.int 0), .configure (.ok .default),
    sighting 0.8 .north, .placeObject (.int 7) (.ok 0.5) (.ok 0.0) (.ok .south)]

theorem run_onward_aftermath :
    let g := run (.empty .default) [spot 0.0 .null, sighting 0.5 .north]
    let w : Waypoint Float := ⟨1, 0.5, 0.0, ⟨.blocked, .blocked, .leadsTo 0, .blocked⟩, true⟩
    g.store.waypoints[1]? = some w ∧ IsSteady g aftermath ∧
      ∃ v : Waypoint Float, (run g aftermath).store.waypoints[1]? = some v ∧ v.id = 1 ∧
        v.hasObject = true ∧ v.links.get .south ≠ .unknown ∧ v.isFrontier = false ∧
        v.x = 0.5 ∧ v.y = 0.0 := by
  intro g w
  have hw : g.store.waypoints[1]? = some w := by decide +kernel
  have steady : IsSteady g aftermath := by decide +kernel
  have reachable : g.store.Reachable := ⟨_, _, rfl⟩
  obtain ⟨v, hv, -, id, object, explored, frontier, spot⟩ :=
    run_onward reachable aftermath hw
  exact ⟨hw, steady, v, hv, id, object, explored .south (by decide), frontier (by decide),
    spot steady⟩

end Request

end WaypointMap
