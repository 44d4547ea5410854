import WaypointMap.Proofs.Graph.Change

/-!
# Connections from either end

Two waypoints may be connected from the one or from the other, in the opposite heading: the store is
the same, and so are the warnings but for their order. To connect them once more changes nothing.
Links need not go both ways for this, and the ends may be one waypoint, but links have to lead to
waypoints of the store.
-/

namespace WaypointMap

variable {K : Type}

namespace Store

variable {s : Store K} {i j : Nat}

/-! ## Links that lead to waypoints of the store -/

theorem InRange.setLink (hs : s.InRange) (i : Nat) (h : Heading) {l : Link}
    (target : ∀ j, l = .leadsTo j → j < s.size) : (s.setLink i h l).InRange := by
  intro a k b hl
  rw [size_setLink]
  rw [link_setLink] at hl
  split at hl
  · obtain ⟨_, -, eq⟩ := Option.map_eq_some_iff.1 hl
    exact target b eq
  · exact hs hl

theorem InRange.joined (hs : s.InRange) (hi : i < s.size) (hj : j < s.size) (h : Heading) :
    (s.joined i h j).InRange := by
  refine InRange.setLink (InRange.setLink ((hs.released i h j).released j h.opposite i) i h ?_) j
    h.opposite ?_
  · rintro _ ⟨⟩
    simpa using hj
  · rintro _ ⟨⟩
    simpa using hi

/-! ## The same join -/

/-- A join from the other end writes the same slots, and finds the same ones stale. -/
theorem joined_comm (hi : i < s.size) (hj : j < s.size) (h : Heading) :
    s.joined j h.opposite i = s.joined i h j := by
  have turn : h ≠ h.opposite := (Heading.opposite_ne h).symm
  refine eq_of_bare_of_link (fun a => (bare_joined ..).trans (bare_joined ..).symm) fun a k => ?_
  rw [link_joined hj hi, link_joined hi hj, Heading.opposite_opposite]
  -- The two ends of the new link, and what is stale at them, differ in their headings.
  by_cases forth : k = h
  · subst forth
    simp only [turn, and_false, false_and, and_true, true_and, if_false]
  · simp only [forth, and_false, false_and, if_false]

/-- The events of a join, told by the links before it. -/
theorem joinedLog_eq_append (s : Store K) (i : Nat) (h : Heading) (j : Nat) :
    s.joinedLog i h j = s.releasedLog i h j ++ s.releasedLog j h.opposite i := by
  rw [joinedLog, releasedLog, releasedLog, stale?_released]
  rfl

theorem joinedLog_comm (s : Store K) (i : Nat) (h : Heading) (j : Nat) :
    (s.joinedLog j h.opposite i).Perm (s.joinedLog i h j) := by
  rw [joinedLog_eq_append, joinedLog_eq_append, Heading.opposite_opposite]
  exact List.perm_append_comm

theorem joinedLog_eq_nil {h : Heading} (near : s.link i h = some (.leadsTo j))
    (far : s.link j h.opposite = some (.leadsTo i)) : s.joinedLog i h j = [] := by
  rw [joinedLog_eq_append, releasedLog, releasedLog, stale?_of_link near, stale?_of_link far]
  rfl

theorem run_connect_of_joined (hs : s.InRange) (hi : i < s.size) (hj : j < s.size) (h : Heading) :
    (connect (.int i) (.ok h) (.int j)).run (s.joined i h j) = ⟨.ok (), s.joined i h j, []⟩ := by
  have near := link_joined_near hi hj h
  have far := link_joined_far hi hj h
  rw [run_connect_of_lt (hs.joined hi hj h) (by rwa [size_joined]) (by rwa [size_joined]),
    joined_eq_self near far, joinedLog_eq_nil near far]

/-- Where all links lead to waypoints, to connect two waypoints succeeds and leaves the same store
from either end, with the same warnings in some order. To connect them again changes nothing and
logs nothing. -/
theorem connect_reversed (hs : s.InRange) {a b : Nat} (ha : a < s.size) (hb : b < s.size)
    (h : Heading) :
    let once := (connect (.int a) (.ok h) (.int b)).run s
    let back := (connect (.int b) (.ok h.opposite) (.int a)).run s
    let again := (connect (.int a) (.ok h) (.int b)).run once.state
    once.result = .ok () ∧ back.result = .ok () ∧ back.state = once.state ∧
      back.log.Perm once.log ∧ again = ⟨.ok (), once.state, []⟩ := by
  rw [run_connect_of_lt hs ha hb, run_connect_of_lt hs hb ha]
  dsimp only
  exact ⟨rfl, rfl, joined_comm ha hb h, joinedLog_comm s a h b, run_connect_of_joined hs ha hb h⟩

/-- Four waypoints. The first two are linked with each other, the third leads to the first, and the
fourth to the third; neither of these is answered. -/
def fan : Store Float :=
  let linked := (Request.run (.empty .default)
    (List.replicate 4 (.create (.ok 0.0) (.ok 0.0) (.ok (.replicate false)) false) ++
      [.connect (.int 0) (.ok .east) (.int 1)])).store
  (linked.setLink 2 .east (.leadsTo 0)).setLink 3 .west (.leadsTo 2)

/-- The first end leaves a partner behind, and the second one that never answered it. -/
theorem connect_reversed_fan :
    fan.InRange ∧ 0 < fan.size ∧ 3 < fan.size ∧
      let once := (connect (.int 0) (.ok .east) (.int 3)).run fan
      let back := (connect (.int 3) (.ok .west) (.int 0)).run fan
      once.result = .ok () ∧ back.result = .ok () ∧ back.state = once.state ∧
        back.log.Perm once.log ∧ once.log.length = 1 ∧
        (connect (.int 0) (.ok .east) (.int 3)).run once.state = ⟨.ok (), once.state, []⟩ := by
  have first : 0 < fan.size := by decide +kernel
  have last : 3 < fan.size := by decide +kernel
  have inRange : fan.InRange := by
    refine InRange.setLink (InRange.setLink (Reachable.wellFormed ⟨_, _, rfl⟩).inRange 2 .east ?_)
      3 .west ?_
    · rintro _ ⟨⟩
      decide +kernel
    · rintro _ ⟨⟩
      decide +kernel
  obtain ⟨result, result', state, log, again⟩ := connect_reversed inRange first last .east
  exact ⟨inRange, first, last, result, result', state, log, by decide +kernel, again⟩

end Store

end WaypointMap
