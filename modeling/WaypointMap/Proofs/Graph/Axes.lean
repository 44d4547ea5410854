import WaypointMap.Proofs.Store.Reversal

/-!
# Axes

A connection works on one axis of the compass: its two ends and the slots that it blocks all lie
north and south, or all east and west, of their waypoints. So connections on different axes can be
made in either order, and the links on an axis can be told from the connections on it alone.
-/

namespace WaypointMap

namespace Heading

/-- North and south, or east and west. -/
inductive Axis where
  | vertical | horizontal
  deriving DecidableEq

def axis : Heading → Axis
  | north => .vertical
  | east => .horizontal
  | south => .vertical
  | west => .horizontal

@[simp] theorem axis_opposite (h : Heading) : h.opposite.axis = h.axis := by
  cases h <;> rfl

theorem Axis.eq_of_ne {a b c : Axis} (ha : a ≠ c) (hb : b ≠ c) : a = b := by
  cases a <;> cases b <;> cases c <;> first | rfl | contradiction

theorem exists_axis_eq (axis : Axis) : ∃ h : Heading, h.axis = axis := by
  cases axis with
  | vertical => exact ⟨.north, rfl⟩
  | horizontal => exact ⟨.east, rfl⟩

end Heading

variable {K : Type}

namespace Store

/-- Whether two stores have the same waypoints with the same links on an axis. -/
def AgreesOn (axis : Heading.Axis) (s t : Store K) : Prop :=
  ∀ (i : Nat) (h : Heading), h.axis = axis → s.link i h = t.link i h

variable {axis : Heading.Axis} {s t u : Store K} {i j : Nat} {h k : Heading}

namespace AgreesOn

theorem refl (axis : Heading.Axis) (s : Store K) : AgreesOn axis s s := fun _ _ _ => rfl

theorem symm (agree : AgreesOn axis s t) : AgreesOn axis t s := fun i h on =>
  (agree i h on).symm

theorem trans (first : AgreesOn axis s t) (second : AgreesOn axis t u) : AgreesOn axis s u :=
  fun i h on => (first i h on).trans (second i h on)

theorem lt_size (agree : AgreesOn axis s t) (hi : i < s.size) : i < t.size := by
  obtain ⟨h, on⟩ := Heading.exists_axis_eq axis
  obtain ⟨l, hl⟩ := exists_link hi h
  exact lt_size_of_link ((agree i h on).symm.trans hl)

theorem stale?_eq (agree : AgreesOn h.axis s t) (i partner : Nat) :
    s.stale? i h partner = t.stale? i h partner := by
  ext a
  rw [stale?_eq_some_iff, stale?_eq_some_iff, agree i h rfl,
    agree a h.opposite (Heading.axis_opposite h)]

/-- What two stores have in common on an axis, a new link on that axis changes in the same way. -/
theorem joined (agree : AgreesOn h.axis s t) (hi : i < s.size) (hj : j < s.size) :
    AgreesOn h.axis (s.joined i h j) (t.joined i h j) := by
  have agree' : AgreesOn h.opposite.axis s t := by rwa [Heading.axis_opposite]
  intro a k on
  rw [link_joined hi hj, link_joined (agree.lt_size hi) (agree.lt_size hj), agree.stale?_eq,
    agree'.stale?_eq, agree a k on]

/-- The warnings about a new link come from its axis. -/
theorem joinedLog_eq (agree : AgreesOn h.axis s t) (i j : Nat) :
    s.joinedLog i h j = t.joinedLog i h j := by
  have agree' : AgreesOn h.opposite.axis s t := by rwa [Heading.axis_opposite]
  simp only [joinedLog_eq_append, releasedLog, agree.stale?_eq, agree'.stale?_eq]

end AgreesOn

/-- A new link leaves the other axis alone. -/
theorem agreesOn_joined (hi : i < s.size) (hj : j < s.size) (other : h.axis ≠ axis) :
    AgreesOn axis (s.joined i h j) s := by
  intro a k on
  have apart : k ≠ h := by
    rintro rfl
    exact other on
  have apart' : k ≠ h.opposite := by
    rintro rfl
    exact other ((Heading.axis_opposite h).symm.trans on)
  rw [link_joined hi hj, if_neg fun c => apart' c.2, if_neg fun c => apart c.2,
    if_neg fun c => apart c.1, if_neg fun c => apart' c.1]

/-- Of two links on different axes, either may be made first. -/
theorem joined_joined (hi : i < s.size) (hj : j < s.size) {c d : Nat} (hc : c < s.size)
    (hd : d < s.size) (apart : h.axis ≠ k.axis) :
    (s.joined i h j).joined c k d = (s.joined c k d).joined i h j := by
  have sameSize {a b : Nat} {g : Heading} {e : Nat} (he : e < s.size) :
      e < (s.joined a g b).size := by rwa [size_joined]
  have first : AgreesOn k.axis (s.joined i h j) s := agreesOn_joined hi hj apart
  have second : AgreesOn h.axis (s.joined c k d) s := agreesOn_joined hc hd apart.symm
  apply eq_of_bare_of_link
  · intro a
    simp only [bare_joined]
  · intro a g
    -- Each axis sees only the link that was made on it.
    by_cases on : g.axis = h.axis
    · have later := agreesOn_joined (sameSize hc) (sameSize hd) apart.symm (s := s.joined i h j)
      exact (later a g on).trans (second.symm.joined hi hj a g on)
    · have on' : g.axis = k.axis := Heading.Axis.eq_of_ne on apart.symm
      have later := agreesOn_joined (sameSize hi) (sameSize hj) apart (s := s.joined c k d)
      exact (first.joined (sameSize hc) (sameSize hd) a g on').trans (later a g on').symm

end Store

namespace Request

variable [Scalar K]

def isConnection : Request K → Bool
  | connect .. => true
  | _ => false

/-- Whether a request asks for a connection on an axis. -/
def isOn (axis : Heading.Axis) : Request K → Bool
  | connect _ (.ok h) _ => h.axis = axis
  | _ => false

section Sessions

open Store

variable {axis : Heading.Axis} {g g' : Graph K}

/-- A connection on an axis does the same to what two maps have in common on it, also if it
fails. -/
theorem agreesOn_perform (hg : g.store.InRange) (hg' : g'.store.InRange)
    (agree : AgreesOn axis g.store g'.store) {a b : Json} {h : Heading} (on : h.axis = axis) :
    AgreesOn axis ((connect a (.ok h) b : Request K).perform.run g).state.store
      ((connect a (.ok h) b : Request K).perform.run g').state.store := by
  subst on
  simp only [perform, Call.run_map, Graph.connect, Graph.onStore, Call.run_onPart]
  obtain ⟨i, j, _, rfl, hi, ⟨⟩, rfl, hj, run⟩ | ⟨e, run⟩ := run_connect hg a (.ok h) b
  · rw [run, run_connect_of_lt hg' (agree.lt_size hi) (agree.lt_size hj)]
    exact agree.joined hi hj
  · obtain ⟨i, j, _, rfl, hi, ⟨⟩, rfl, hj, run'⟩ | ⟨e', run'⟩ := run_connect hg' a (.ok h) b
    · -- The other map holds both ends as well.
      rw [run_connect_of_lt hg (agree.symm.lt_size hi) (agree.symm.lt_size hj)] at run
      cases congrArg Outcome.result run
    · rw [run, run']
      exact agree

/-- A connection that is not on an axis does nothing to the links on it. -/
theorem agreesOn_perform_of_not_isOn (hg : g.store.InRange) {r : Request K}
    (connection : r.isConnection = true) (off : ¬ r.isOn axis = true) :
    AgreesOn axis (r.perform.run g).state.store g.store := by
  cases r with
  | connect a heading b =>
    simp only [perform, Call.run_map, Graph.connect, Graph.onStore, Call.run_onPart]
    obtain ⟨i, j, h, rfl, hi, rfl, rfl, hj, run⟩ | ⟨e, run⟩ := run_connect hg a heading b
    · rw [run]
      exact agreesOn_joined hi hj fun on => off (decide_eq_true on)
    · rw [run]
      exact .refl axis g.store
  | create | placeWaypoint | placeObject | configure | get | nearby | isFrontier | pathToFrontier
  | pathToObject => cases connection

/-- Connections off an axis can be left out of a session without a change to the links on it. -/
theorem agreesOn_run (hg : g.store.WellFormed) (hg' : g'.store.WellFormed)
    (agree : AgreesOn axis g.store g'.store) {session : List (Request K)}
    (connections : ∀ r ∈ session, r.isConnection = true) :
    AgreesOn axis (run g session).store (run g' (session.filter (·.isOn axis))).store := by
  induction session generalizing g g' with
  | nil => exact agree
  | cons r rest ih =>
    have later : ∀ r ∈ rest, r.isConnection = true := fun q hq =>
      connections q (List.mem_cons_of_mem r hq)
    have next : (r.perform.run g).state.store.WellFormed := hg.changes (changes_perform r hg)
    by_cases on : r.isOn axis = true
    · have next' : (r.perform.run g').state.store.WellFormed := hg'.changes (changes_perform r hg')
      rw [List.filter_cons_of_pos on]
      apply ih next next' _ later
      cases r with
      | connect a heading b =>
        cases heading with
        | error e => cases on
        | ok h => exact agreesOn_perform hg.inRange hg'.inRange agree (of_decide_eq_true on)
      | create | placeWaypoint | placeObject | configure | get | nearby | isFrontier
      | pathToFrontier | pathToObject => cases on
    · rw [List.filter_cons_of_neg on]
      have unseen := agreesOn_perform_of_not_isOn hg.inRange (connections r List.mem_cons_self) on
      exact ih next hg' (unseen.trans agree) later

end Sessions

/-- Two connections on different axes, between any waypoints, leave the same store in either order,
each with its own warnings. After a session of connections, some of which may fail, the links on an
axis are those that the connections on this axis alone would have left. -/
theorem connections_split {g : Graph K} (hg : g.store.Reachable) :
    (∀ {a b c d : Nat}, a < g.store.size → b < g.store.size → c < g.store.size →
      d < g.store.size → ∀ {h k : Heading}, h.axis ≠ k.axis →
      let first : StoreCall K Unit := Store.connect (.int a) (.ok h) (.int b)
      let second : StoreCall K Unit := Store.connect (.int c) (.ok k) (.int d)
      let forth := (first >>= fun _ => second).run g.store
      let back := (second >>= fun _ => first).run g.store
      forth.result = .ok () ∧ back.result = .ok () ∧ forth.state = back.state ∧
        forth.log = (first.run g.store).log ++ (second.run g.store).log ∧
        back.log = (second.run g.store).log ++ (first.run g.store).log) ∧
    ∀ session : List (Request K), (∀ r ∈ session, r.isConnection = true) →
      ∀ (i : Nat) (h : Heading), (run g session).store.link i h =
        (run g (session.filter (·.isOn h.axis))).store.link i h := by
  have wellFormed := hg.wellFormed
  constructor
  · intro a b c d ha hb hc hd h k apart
    have inRange := wellFormed.inRange
    have run := Store.run_connect_of_lt inRange ha hb h
    have run' := Store.run_connect_of_lt inRange hc hd k
    have second := Store.run_connect_of_lt (inRange.joined ha hb h) (i := c) (j := d)
      (by rwa [Store.size_joined]) (by rwa [Store.size_joined]) k
    have first := Store.run_connect_of_lt (inRange.joined hc hd k) (i := a) (j := b)
      (by rwa [Store.size_joined]) (by rwa [Store.size_joined]) h
    have log := (Store.agreesOn_joined ha hb apart).joinedLog_eq c d
    have log' := (Store.agreesOn_joined hc hd apart.symm).joinedLog_eq a b
    simp only [Call.run_bind, run, run', second, first, log, log', true_and, and_true]
    exact Store.joined_joined ha hb hc hd apart
  · intro session connections i h
    exact agreesOn_run wellFormed wellFormed (.refl h.axis g.store) connections i h rfl

/-- A map of four waypoints without links. -/
def plaza : Graph Float :=
  run (.empty .default)
    (List.replicate 4 (.create (.ok 0.0) (.ok 0.0) (.ok (.replicate false)) false))

/-- Connections on both axes. The third and the fifth take the place of earlier ones, and the fourth
fails. -/
def detours : List (Request Float) :=
  [.connect (.int 0) (.ok .north) (.int 1), .connect (.int 0) (.ok .east) (.int 1),
    .connect (.int 2) (.ok .north) (.int 1), .connect (.int 7) (.ok .north) (.int 0),
    .connect (.int 1) (.ok .west) (.int 3), .connect (.int 3) (.ok .south) (.int 3)]

/-- The north and south links of the middle waypoint can be told from three connections. -/
theorem connections_split_plaza :
    plaza.store.Reachable ∧
      (let first : StoreCall Float Unit := Store.connect (.int 0) (.ok .north) (.int 1)
      let second : StoreCall Float Unit := Store.connect (.int 1) (.ok .west) (.int 0)
      ((first >>= fun _ => second).run plaza.store).state =
        ((second >>= fun _ => first).run plaza.store).state) ∧
      (∀ r ∈ detours, r.isConnection = true) ∧
      (run plaza detours).store.link 1 .south = some (.leadsTo 2) ∧
      (run plaza detours).store.link 0 .east = some .blocked := by
  have reachable : plaza.store.Reachable := ⟨_, _, rfl⟩
  have connections : ∀ r ∈ detours, r.isConnection = true := by decide
  have size : plaza.store.size = 4 := by decide +kernel
  obtain ⟨commute, split⟩ := connections_split reachable
  have same := (commute (a := 0) (b := 1) (c := 1) (d := 0) (by omega) (by omega) (by omega)
    (by omega) (h := .north) (k := .west) (by decide)).2.2.1
  refine ⟨reachable, same, connections, ?_, ?_⟩
  · exact (split detours connections 1 .south).trans (by decide +kernel)
  · exact (split detours connections 0 .east).trans (by decide +kernel)

end Request

end WaypointMap
