import WaypointMap.Proofs.Store.Join

/-!
# Well-formed stores

What holds of a store whatever was done to it: ids are positions, links lead to waypoints of
the store, and links go both ways. Each way to write a store keeps this, joins included,
however the ends of the new link and the partners of the old ones coincide.
-/

namespace WaypointMap

variable {K : Type}

/-- Whether a link can stand in a store of some size: unexplored, blocked, or a way to one of
its waypoints. -/
def Link.IsValid (l : Link) (size : Nat) : Prop :=
  l = .unknown ∨ l = .blocked ∨ ∃ j < size, l = .leadsTo j

namespace Store

/-- What holds of a store at all times. -/
structure WellFormed (s : Store K) : Prop where
  /-- The id of a waypoint is its position. -/
  ids : ∀ {i : Nat} {w : Waypoint K}, s.waypoints[i]? = some w → w.id = i
  links : ∀ {i : Nat} {h : Heading} {l : Link}, s.link i h = some l → l.IsValid s.size
  /-- A link is answered by a link back in the opposite heading. -/
  answered : ∀ {i : Nat} {h : Heading} {j : Nat},
    s.link i h = some (.leadsTo j) → s.link j h.opposite = some (.leadsTo i)

theorem WellFormed.inRange {s : Store K} (hs : s.WellFormed) : s.InRange := by
  intro i h j hl
  obtain hl | hl | ⟨j', hj', hl⟩ := hs.links hl
  · cases hl
  · cases hl
  · cases hl
    exact hj'

theorem WellFormed.reciprocal {s : Store K} (hs : s.WellFormed) (i : Nat) (h : Heading)
    (j : Nat) :
    s.link i h = some (.leadsTo j) ↔ s.link j h.opposite = some (.leadsTo i) := by
  refine ⟨hs.answered, fun hl => ?_⟩
  have back := hs.answered hl
  rwa [Heading.opposite_opposite] at back

/-- No two waypoints have the same waypoint in the same heading. -/
theorem WellFormed.injective {s : Store K} (hs : s.WellFormed) {i i' j : Nat} {h : Heading}
    (hl : s.link i h = some (.leadsTo j)) (hl' : s.link i' h = some (.leadsTo j)) : i = i' := by
  have back := hs.answered hl
  rw [hs.answered hl'] at back
  cases back
  rfl

/-- Where links go both ways, every former partner answers. -/
theorem WellFormed.stale?_eq_some_iff {s : Store K} (hs : s.WellFormed) {i : Nat} {h : Heading}
    {partner a : Nat} :
    s.stale? i h partner = some a ↔ s.link i h = some (.leadsTo a) ∧ a ≠ partner := by
  rw [Store.stale?_eq_some_iff]
  exact ⟨fun ⟨hl, hne, _⟩ => ⟨hl, hne⟩, fun ⟨hl, hne⟩ => ⟨hl, hne, hs.answered hl⟩⟩

theorem wellFormed_empty : (empty : Store K).WellFormed := by
  constructor <;> intros <;> simp_all [empty, link]

theorem WellFormed.push {s : Store K} (hs : s.WellFormed) (x y : K) (blocked : Compass Bool)
    (hasObject : Bool) : (s.push x y blocked hasObject).WellFormed := by
  have new : ∀ {h : Heading} {l : Link}, some (Link.ofFlag (blocked.get h)) = some l →
      l = .unknown ∨ l = .blocked := by
    rintro h l ⟨⟩
    cases blocked.get h
    · exact .inl rfl
    · exact .inr rfl
  constructor
  · intro i w hw
    rw [getElem?_push] at hw
    split at hw
    · next hi => cases hw; exact hi.symm
    · exact hs.ids hw
  · intro i h l hl
    rw [link_push] at hl
    rw [size_push]
    split at hl
    · rcases new hl with rfl | rfl
      · exact .inl rfl
      · exact .inr (.inl rfl)
    · obtain hl | hl | ⟨j, hj, hl⟩ := hs.links hl
      · exact .inl hl
      · exact .inr (.inl hl)
      · exact .inr (.inr ⟨j, by omega, hl⟩)
  · intro i h j hl
    rw [link_push] at hl
    split at hl
    · rcases new hl with hl | hl <;> cases hl
    · have hj := hs.inRange hl
      rw [link_push, if_neg (by omega)]
      exact hs.answered hl

theorem WellFormed.moveTo {s : Store K} (hs : s.WellFormed) (i : Nat) (x y : K) :
    (s.moveTo i x y).WellFormed := by
  constructor
  · intro j w hw
    simp only [Store.moveTo, getElem?_adjust] at hw
    split at hw
    · obtain ⟨v, hv, rfl⟩ := Option.map_eq_some_iff.1 hw
      exact hs.ids (w := v) hv
    · exact hs.ids hw
  · intro j h l hl
    rw [link_moveTo] at hl
    rw [size_moveTo]
    exact hs.links hl
  · intro j h k hl
    rw [link_moveTo] at hl ⊢
    exact hs.answered hl

/-- A slot that leads to an end of a join and is neither end itself has its answer at that
end, so it is the stale one. -/
theorem WellFormed.stale_of_leadsTo {s : Store K} (hs : s.WellFormed) {i : Nat} {h : Heading}
    {partner a : Nat} (hl : s.link a h.opposite = some (.leadsTo i)) (hne : a ≠ partner) :
    s.stale? i h partner = some a :=
  hs.stale?_eq_some_iff.2 ⟨(hs.reciprocal i h a).2 hl, hne⟩

theorem WellFormed.joined {s : Store K} (hs : s.WellFormed) {i j : Nat} (hi : i < s.size)
    (hj : j < s.size) (h : Heading) : (s.joined i h j).WellFormed := by
  have slot := link_joined hi hj h
  constructor
  · intro a w hw
    have hb : (s.joined i h j).bare a = some w.bare := by simp [bare, hw]
    rw [bare_joined] at hb
    obtain ⟨v, hv, hvw⟩ := Option.map_eq_some_iff.1 hb
    rw [← Waypoint.id_bare w, ← hvw, Waypoint.id_bare]
    exact hs.ids hv
  · intro a k l hl
    rw [slot] at hl
    rw [size_joined]
    split at hl
    · cases hl
      exact .inr (.inr ⟨i, hi, rfl⟩)
    split at hl
    · cases hl
      exact .inr (.inr ⟨j, hj, rfl⟩)
    split at hl
    · cases hl
      exact .inr (.inl rfl)
    split at hl
    · cases hl
      exact .inr (.inl rfl)
    · exact hs.links hl
  · intro a k b hl
    rw [slot] at hl
    split at hl
    · next far =>
      cases hl
      obtain ⟨rfl, rfl⟩ := far
      rw [Heading.opposite_opposite, slot, if_neg (fun c => Heading.opposite_ne h c.2.symm),
        if_pos ⟨rfl, rfl⟩]
    next far =>
    split at hl
    · next near =>
      cases hl
      obtain ⟨rfl, rfl⟩ := near
      rw [slot, if_pos ⟨rfl, rfl⟩]
    next near =>
    split at hl
    · cases hl
    next notStaleFar =>
    split at hl
    · cases hl
    next notStaleNear =>
    -- The slot and its answer are both older than the join; neither was given up for it.
    have back := hs.answered hl
    rw [slot, if_neg, if_neg, if_neg, if_neg]
    · exact back
    · rintro ⟨hk, hst⟩
      have hback := hs.answered (hs.stale?_eq_some_iff.1 hst).1
      rw [← hk, back] at hback
      cases hback
      exact near ⟨rfl, Heading.opposite_eq_iff.1 hk |>.trans (Heading.opposite_opposite h)⟩
    · rintro ⟨hk, hst⟩
      have hback := hs.answered (hs.stale?_eq_some_iff.1 hst).1
      rw [Heading.opposite_opposite, ← hk, back] at hback
      cases hback
      exact far ⟨rfl, Heading.opposite_eq_iff.1 hk⟩
    · rintro ⟨rfl, hk⟩
      have hk' := Heading.opposite_eq_iff.1 hk
      exact notStaleNear ⟨hk', hs.stale_of_leadsTo (hk' ▸ hl) fun ha => far ⟨ha, hk'⟩⟩
    · rintro ⟨rfl, hk⟩
      have hk' : k = h := by simpa using Heading.opposite_eq_iff.1 hk
      subst hk'
      refine notStaleFar ⟨rfl, hs.stale_of_leadsTo ?_ fun ha => near ⟨ha, rfl⟩⟩
      rwa [Heading.opposite_opposite]

end Store

end WaypointMap
