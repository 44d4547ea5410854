import WaypointMap.Proofs.Graph.Change

/-!
# Links and the history of a map

A link begins and ends at a port, a slot of a waypoint. Which ports are linked can be told
from the history of a map alone: from the flags that its waypoints were created with and from
the connections in their order. Two ports are linked when the last connection that touched
either of them was one that joined the two.
-/

namespace WaypointMap

/-- A slot of a waypoint. -/
structure Port where
  waypoint : Nat
  heading : Heading
  deriving DecidableEq

/-- A connection from a waypoint in a heading to another waypoint. -/
structure Joint where
  origin : Nat
  heading : Heading
  target : Nat

namespace Joint

def near (c : Joint) : Port := ⟨c.origin, c.heading⟩

def far (c : Joint) : Port := ⟨c.target, c.heading.opposite⟩

/-- Whether a port is an end of a connection. -/
def Touches (c : Joint) (p : Port) : Prop := p = c.near ∨ p = c.far

instance (c : Joint) (p : Port) : Decidable (c.Touches p) :=
  inferInstanceAs (Decidable (_ ∨ _))

/-- Whether two ports are the two ends of a connection. -/
def Pairs (c : Joint) (p q : Port) : Prop := p = c.near ∧ q = c.far ∨ p = c.far ∧ q = c.near

instance (c : Joint) (p q : Port) : Decidable (c.Pairs p q) :=
  inferInstanceAs (Decidable (_ ∨ _))

end Joint

/-- What was done to the ports of a map. -/
structure History where
  /-- The blocked flags of the waypoints, in the order of their creation. -/
  flags : List (Compass Bool)
  /-- The connections, in their order. -/
  joints : List Joint

namespace History

def blank : History := ⟨[], []⟩

def created (past : History) (blocked : Compass Bool) : History :=
  { past with flags := past.flags ++ [blocked] }

def connected (past : History) (c : Joint) : History :=
  { past with joints := past.joints ++ [c] }

/-- The last connection that touched one of two ports. -/
def lastTouching (past : History) (p q : Port) : Option Joint :=
  past.joints.reverse.find? fun c => c.Touches p ∨ c.Touches q

/-- Whether the last connection that touched one of two ports joined the two. -/
def Links (past : History) (p q : Port) : Prop :=
  ∃ c, past.lastTouching p q = some c ∧ c.Pairs p q

/-- Whether a port was created without a block and never touched. -/
def LeavesOpen (past : History) (p : Port) : Prop :=
  (∀ c ∈ past.joints, ¬ c.Touches p) ∧
    ∃ blocked, past.flags[p.waypoint]? = some blocked ∧ blocked.get p.heading = false

end History

/-! ## The history one step later -/

namespace History

theorem lastTouching_connected (past : History) (c : Joint) (p q : Port) :
    (past.connected c).lastTouching p q =
      if c.Touches p ∨ c.Touches q then some c else past.lastTouching p q := by
  simp only [lastTouching, connected, List.reverse_append, List.reverse_singleton,
    List.singleton_append, List.find?_cons]
  split
  · next h => rw [if_pos (of_decide_eq_true h)]
  · next h => rw [if_neg (of_decide_eq_false h)]

theorem links_connected_of_touches {past : History} {c : Joint} {p q : Port}
    (h : c.Touches p ∨ c.Touches q) : (past.connected c).Links p q ↔ c.Pairs p q := by
  simp [Links, lastTouching_connected, h]

theorem links_connected_of_not_touches {past : History} {c : Joint} {p q : Port}
    (hp : ¬ c.Touches p) (hq : ¬ c.Touches q) :
    (past.connected c).Links p q ↔ past.Links p q := by
  simp [Links, lastTouching_connected, hp, hq]

theorem leavesOpen_connected {past : History} {c : Joint} {p : Port} :
    (past.connected c).LeavesOpen p ↔ ¬ c.Touches p ∧ past.LeavesOpen p := by
  simp only [LeavesOpen, connected, List.mem_append, List.mem_singleton, or_imp, forall_and,
    forall_eq, and_assoc]
  exact and_left_comm

theorem links_created {past : History} {blocked : Compass Bool} {p q : Port} :
    (past.created blocked).Links p q ↔ past.Links p q := Iff.rfl

theorem leavesOpen_created_last {past : History} {blocked : Compass Bool} {h : Heading}
    (untouched : ∀ c ∈ past.joints, ¬ c.Touches ⟨past.flags.length, h⟩) :
    (past.created blocked).LeavesOpen ⟨past.flags.length, h⟩ ↔ blocked.get h = false := by
  have flag : (past.created blocked).flags[past.flags.length]? = some blocked :=
    List.getElem?_concat_length
  constructor
  · rintro ⟨-, b, hb, hopen⟩
    cases hb.symm.trans flag
    exact hopen
  · exact fun hopen => ⟨untouched, blocked, flag, hopen⟩

theorem leavesOpen_created_of_ne {past : History} {blocked : Compass Bool} {p : Port}
    (hp : p.waypoint ≠ past.flags.length) :
    (past.created blocked).LeavesOpen p ↔ past.LeavesOpen p := by
  have flag : (past.created blocked).flags[p.waypoint]? = past.flags[p.waypoint]? := by
    simp only [created, List.getElem?_append, List.getElem?_singleton]
    split
    · rfl
    · next ge => rw [if_neg (by omega), List.getElem?_eq_none (by omega)]
  unfold LeavesOpen
  rw [flag]
  rfl

/-- A history describes a store when it tells which ports are linked and which are open. -/
structure Describes {K : Type} (past : History) (s : Store K) : Prop where
  wellFormed : s.WellFormed
  length_flags : past.flags.length = s.size
  inside : ∀ {c : Joint}, c ∈ past.joints → c.origin < s.size ∧ c.target < s.size
  links_iff : ∀ (i : Nat) (h : Heading) (j : Nat),
    s.link i h = some (.leadsTo j) ↔ past.Links ⟨i, h⟩ ⟨j, h.opposite⟩
  open_iff : ∀ (i : Nat) (h : Heading), s.link i h = some .unknown ↔ past.LeavesOpen ⟨i, h⟩

variable {K : Type} {past : History} {s : Store K}

theorem describes_blank : blank.Describes (.empty : Store K) := by
  refine ⟨Store.wellFormed_empty, rfl, nofun, fun i h j => ?_, fun i h => ?_⟩
  · simp [Store.link, Store.empty, Links, lastTouching, blank]
  · simp [Store.link, Store.empty, LeavesOpen, blank]

/-- A port of a waypoint that does not exist yet was never touched. -/
theorem Describes.not_touches (d : past.Describes s) {c : Joint} (hc : c ∈ past.joints)
    (h : Heading) : ¬ c.Touches ⟨s.size, h⟩ := by
  have inside := d.inside hc
  rintro (near | far)
  · have := congrArg Port.waypoint near
    simp only [Joint.near] at this
    omega
  · have := congrArg Port.waypoint far
    simp only [Joint.far] at this
    omega

theorem Describes.push (d : past.Describes s) (x y : K) (blocked : Compass Bool)
    (hasObject : Bool) :
    (past.created blocked).Describes (s.push x y blocked hasObject) where
  wellFormed := d.wellFormed.push x y blocked hasObject
  length_flags := by simp [created, d.length_flags]
  inside := by
    intro c hc
    have inside := d.inside hc
    rw [Store.size_push]
    omega
  links_iff := by
    intro i h j
    rw [links_created, ← d.links_iff, Store.link_push]
    split
    · next hi =>
      subst hi
      have none : s.link s.size h ≠ some (.leadsTo j) := fun hl =>
        Nat.lt_irrefl _ (Store.lt_size_of_link hl)
      cases hf : blocked.get h <;> simp [Link.ofFlag, none]
    · rfl
  open_iff := by
    intro i h
    rw [Store.link_push]
    split
    · next hi =>
      subst hi
      rw [← d.length_flags, leavesOpen_created_last fun c hc => by
        rw [d.length_flags]
        exact d.not_touches hc h]
      cases hf : blocked.get h <;> simp [Link.ofFlag]
    · next hi =>
      rw [d.open_iff, leavesOpen_created_of_ne (by rw [d.length_flags]; exact hi)]

/-- Which slots lead where after a join, told by its ends alone. -/
theorem leadsTo_joined_iff (hs : s.WellFormed) {c : Joint} (ho : c.origin < s.size)
    (ht : c.target < s.size) (i : Nat) (h : Heading) (j : Nat) :
    (s.joined c.origin c.heading c.target).link i h = some (.leadsTo j) ↔
      if c.Touches ⟨i, h⟩ ∨ c.Touches ⟨j, h.opposite⟩ then c.Pairs ⟨i, h⟩ ⟨j, h.opposite⟩
      else s.link i h = some (.leadsTo j) := by
  obtain ⟨o, g, t⟩ := c
  have hopp : ∀ {k : Heading}, h.opposite = k ↔ h = k.opposite := Heading.opposite_eq_iff
  have hne := Heading.opposite_ne g
  rw [Store.link_joined ho ht]
  simp only [Joint.Touches, Joint.Pairs, Joint.near, Joint.far, Port.mk.injEq, hopp,
    Heading.opposite_opposite]
  by_cases far : i = t ∧ h = g.opposite
  · obtain ⟨rfl, rfl⟩ := far
    simp [hne, eq_comm]
  by_cases near : i = o ∧ h = g
  · obtain ⟨rfl, rfl⟩ := near
    simp [hne.symm, eq_comm]
  simp only [far, near, if_false, false_and, or_false, false_or]
  -- A port that is no end of the connection keeps its link, unless the other end of that
  -- link is one: then it is the stale port of that end.
  by_cases staleFar : h = g ∧ s.stale? t g.opposite o = some i
  · obtain ⟨rfl, hst⟩ := staleFar
    have back := hs.answered (hs.stale?_eq_some_iff.1 hst).1
    rw [Heading.opposite_opposite] at back
    simp [hst, back, eq_comm]
  by_cases staleNear : h = g.opposite ∧ s.stale? o g t = some i
  · obtain ⟨rfl, hst⟩ := staleNear
    have back := hs.answered (hs.stale?_eq_some_iff.1 hst).1
    simp [hst, back, eq_comm, hne.symm]
  rw [if_neg staleFar, if_neg staleNear]
  split
  · next touched =>
    rw [iff_false]
    intro hl
    rcases touched with ⟨rfl, rfl⟩ | ⟨rfl, rfl⟩
    · exact staleNear ⟨rfl, hs.stale_of_leadsTo hl fun hi => far ⟨hi, rfl⟩⟩
    · refine staleFar ⟨rfl, hs.stale_of_leadsTo ?_ fun hi => near ⟨hi, rfl⟩⟩
      rwa [Heading.opposite_opposite]
  · rfl

/-- A join leaves those slots unexplored that were so, its ends apart. -/
theorem unknown_joined_iff (hs : s.WellFormed) {c : Joint} (ho : c.origin < s.size)
    (ht : c.target < s.size) (i : Nat) (h : Heading) :
    (s.joined c.origin c.heading c.target).link i h = some .unknown ↔
      ¬ c.Touches ⟨i, h⟩ ∧ s.link i h = some .unknown := by
  obtain ⟨o, g, t⟩ := c
  rw [Store.link_joined ho ht]
  simp only [Joint.Touches, Joint.near, Joint.far, Port.mk.injEq, not_or]
  by_cases far : i = t ∧ h = g.opposite
  · rw [if_pos far]
    simp [far]
  by_cases near : i = o ∧ h = g
  · rw [if_neg far, if_pos near]
    simp [near]
  rw [if_neg far, if_neg near]
  split
  · next stale =>
    obtain ⟨rfl, hst⟩ := stale
    have back := hs.answered (hs.stale?_eq_some_iff.1 hst).1
    rw [Heading.opposite_opposite] at back
    simp [back]
  split
  · next stale =>
    obtain ⟨rfl, hst⟩ := stale
    simp [hs.answered (hs.stale?_eq_some_iff.1 hst).1]
  · simp [far, near]

theorem Describes.joined (d : past.Describes s) {c : Joint} (ho : c.origin < s.size)
    (ht : c.target < s.size) :
    (past.connected c).Describes (s.joined c.origin c.heading c.target) where
  wellFormed := d.wellFormed.joined ho ht c.heading
  length_flags := by
    rw [Store.size_joined]
    exact d.length_flags
  inside := by
    intro b hb
    rw [Store.size_joined]
    rcases List.mem_append.1 hb with hb | hb
    · exact d.inside hb
    · rw [List.mem_singleton.1 hb]
      exact ⟨ho, ht⟩
  links_iff := by
    intro i h j
    rw [leadsTo_joined_iff d.wellFormed ho ht]
    split
    · next touched => rw [links_connected_of_touches touched]
    · next untouched =>
      rw [not_or] at untouched
      rw [links_connected_of_not_touches untouched.1 untouched.2, d.links_iff]
  open_iff := by
    intro i h
    rw [unknown_joined_iff d.wellFormed ho ht, leavesOpen_connected, d.open_iff]

end History

namespace Request

variable {K : Type} [Scalar K]

def isPlacement : Request K → Bool
  | placeWaypoint .. => true
  | placeObject .. => true
  | _ => false

/-- The history after a request with its result. What failed is not part of the history. -/
def record (past : History) : Request K → Checked (Answer K) → History
  | create _ _ (.ok blocked) _, .ok _ => past.created blocked
  | connect (.int (.ofNat a)) (.ok h) (.int (.ofNat b)), .ok _ => past.connected ⟨a, h, b⟩
  | _, _ => past

/-- The history after a session on a graph. -/
def history (past : History) (g : Graph K) : List (Request K) → History
  | [] => past
  | r :: rest =>
    let outcome := r.perform.run g
    history (r.record past outcome.result) outcome.state rest

variable {past : History} {g : Graph K}

omit [Scalar K] in
theorem record_error (r : Request K) (e : Error) : r.record past (.error e) = past := by
  unfold record
  split
  · contradiction
  · contradiction
  · rfl

theorem describes_perform (d : past.Describes g.store) {r : Request K}
    (hr : r.isPlacement = false) :
    (r.record past (r.perform.run g).result).Describes (r.perform.run g).state.store := by
  cases r with
  | create x y blocked hasObject =>
    simp only [perform, Call.run_map, Graph.create, Graph.onStore, Call.run_onPart]
    obtain ⟨x, y, b, rfl, rfl, rfl, run⟩ | ⟨e, run⟩ :=
      Store.run_create x y blocked hasObject g.store
    · rw [run]
      exact d.push x y b hasObject
    · simp only [run, Except.map, record_error]
      exact d
  | connect a heading b =>
    simp only [perform, Call.run_map, Graph.connect, Graph.onStore, Call.run_onPart]
    obtain ⟨i, j, h, rfl, hi, rfl, rfl, hj, run⟩ | ⟨e, run⟩ :=
      Store.run_connect d.wellFormed.inRange a heading b
    · rw [run]
      exact d.joined (c := ⟨i, h, j⟩) hi hj
    · simp only [run, Except.map, record_error]
      exact d
  | placeWaypoint => cases hr
  | placeObject => cases hr
  | configure config =>
    cases config with
    | error e => exact d
    | ok config => exact d
  | get id => exact d
  | nearby x y => exact d
  | isFrontier id => exact d
  | pathToFrontier id => exact d
  | pathToObject id => exact d

theorem describes_run (d : past.Describes g.store) {session : List (Request K)}
    (hs : ∀ r ∈ session, r.isPlacement = false) :
    (history past g session).Describes (run g session).store := by
  induction session generalizing past g with
  | nil => exact d
  | cons r rest ih =>
    exact ih (describes_perform d (hs r (by simp))) fun q hq => hs q (by simp [hq])

/-- After every session of creations and connections, the links are the last-writer matching
of ports: two ports are linked when the last connection that touched either joined the two, a
port is unexplored when it was created so and never touched, and every other port of a
waypoint is blocked. -/
theorem link_iff_last_joint (config : Config K) (session : List (Request K))
    (hs : ∀ r ∈ session, r.isPlacement = false) :
    let s := (run (.empty config) session).store
    let past := history .blank (.empty config) session
    ∀ (i : Nat) (h : Heading),
      (∀ j, s.link i h = some (.leadsTo j) ↔ past.Links ⟨i, h⟩ ⟨j, h.opposite⟩) ∧
      (s.link i h = some .unknown ↔ past.LeavesOpen ⟨i, h⟩) ∧
      (i < s.size → (¬ ∃ j, past.Links ⟨i, h⟩ ⟨j, h.opposite⟩) → ¬ past.LeavesOpen ⟨i, h⟩ →
        s.link i h = some .blocked) := by
  intro s past i h
  have d : past.Describes s :=
    describes_run (g := .empty config) History.describes_blank hs
  refine ⟨d.links_iff i h, d.open_iff i h, fun hi unlinked closed => ?_⟩
  obtain ⟨l, hl⟩ := Store.exists_link hi h
  obtain rfl | rfl | ⟨j, -, rfl⟩ := d.wellFormed.links hl
  · exact absurd ((d.open_iff i h).1 hl) closed
  · exact hl
  · exact absurd ⟨j, (d.links_iff i h j).1 hl⟩ unlinked

/-- Three waypoints in a row, of which the first is then linked past the second. -/
def detour : List (Request Rat) :=
  [.create (.ok 0) (.ok 0) (.ok (.replicate false)) false,
    .create (.ok 1) (.ok 0) (.ok (.replicate false)) false,
    .create (.ok 2) (.ok 0) (.ok (.replicate false)) false,
    .connect (.int 0) (.ok .east) (.int 1), .connect (.int 1) (.ok .east) (.int 2),
    .connect (.int 0) (.ok .east) (.int 2)]

theorem link_iff_last_joint_detour :
    (∀ r ∈ detour, r.isPlacement = false) ∧
      (let s := (run (.empty .default) detour).store
      s.link 0 .east = some (.leadsTo 2) ∧ s.link 1 .west = some .blocked ∧
        s.link 1 .north = some .unknown) := by
  have hs : ∀ r ∈ detour, r.isPlacement = false := by decide
  have slot := link_iff_last_joint .default detour hs
  have past : history .blank (.empty .default) detour =
      ⟨List.replicate 3 (.replicate false), [⟨0, .east, 1⟩, ⟨1, .east, 2⟩, ⟨0, .east, 2⟩]⟩ := rfl
  refine ⟨hs, ((slot 0 .east).1 2).2 ?_, (slot 1 .west).2.2 ?_ ?_ ?_, (slot 1 .north).2.1.2 ?_⟩
  · exact ⟨⟨0, .east, 2⟩, rfl, by decide⟩
  · decide
  · rw [past]
    rintro ⟨j, c, last, pairs⟩
    -- Only the first connection ends at this port, and the third one took its other end.
    by_cases hj : j = 0
    · subst hj
      cases last
      revert pairs
      decide
    · have recorded := List.mem_of_find?_eq_some last
      simp only [List.mem_reverse, List.mem_cons, List.not_mem_nil, or_false] at recorded
      simp only [Joint.Pairs, Joint.near, Joint.far, Port.mk.injEq] at pairs
      rcases recorded with rfl | rfl | rfl
      · rcases pairs with ⟨⟨same, -⟩, -⟩ | ⟨-, same, -⟩
        · cases same
        · exact hj same
      · simp at pairs
      · simp at pairs
  · rw [past]
    rintro ⟨untouched, -⟩
    exact untouched ⟨0, .east, 1⟩ (by simp) (by decide)
  · exact ⟨by decide, .replicate false, rfl, rfl⟩

end Request

end WaypointMap
