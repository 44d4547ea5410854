import WaypointMap.Call.Lemmas
import WaypointMap.Store.Connect
import WaypointMap.Store.Lemmas

/-!
# What a join does

Where every link leads to a waypoint of the store, a join always succeeds. Its effect is
given slot by slot: the two joined slots hold the new link, a slot that still answers one of
the two links that were there before is blocked, and all other slots are as they were. Links
need not be two-sided for this.
-/

namespace WaypointMap

variable {K : Type}

/-- A waypoint apart from its links. -/
def Waypoint.bare (w : Waypoint K) : Waypoint K := { w with links := .replicate .unknown }

@[simp] theorem Waypoint.id_bare (w : Waypoint K) : w.bare.id = w.id := rfl

namespace Store

/-- Whether all links lead to waypoints of the store. -/
def InRange (s : Store K) : Prop :=
  ∀ ⦃i : Nat⦄ ⦃h : Heading⦄ ⦃j : Nat⦄, s.link i h = some (.leadsTo j) → j < s.size

def bare (s : Store K) (i : Nat) : Option (Waypoint K) := s.waypoints[i]?.map Waypoint.bare

/-! ## Slots -/

theorem exists_waypoint {s : Store K} {i : Nat} (hi : i < s.size) :
    ∃ w, s.waypoints[i]? = some w :=
  ⟨s.waypoints[i], Array.getElem?_eq_getElem hi⟩

theorem lt_size_of_link {s : Store K} {i : Nat} {h : Heading} {l : Link}
    (hl : s.link i h = some l) : i < s.size := by
  simp only [link, Option.map_eq_some_iff] at hl
  obtain ⟨w, hw, -⟩ := hl
  exact (Array.getElem?_eq_some_iff.1 hw).1

theorem exists_link {s : Store K} {i : Nat} (hi : i < s.size) (h : Heading) :
    ∃ l, s.link i h = some l := by
  obtain ⟨w, hw⟩ := exists_waypoint hi
  exact ⟨w.links.get h, by simp [link, hw]⟩

theorem link_setLink_of_lt {s : Store K} {i : Nat} (hi : i < s.size) (h : Heading) (l : Link)
    (j : Nat) (k : Heading) :
    (s.setLink i h l).link j k = if j = i ∧ k = h then some l else s.link j k := by
  rw [link_setLink]
  by_cases same : i = j ∧ h = k
  · obtain ⟨rfl, rfl⟩ := same
    obtain ⟨l', hl'⟩ := exists_link hi h
    simp [hl']
  · rw [if_neg same, if_neg (fun c => same ⟨c.1.symm, c.2.symm⟩)]

@[simp] theorem bare_setLink (s : Store K) (i : Nat) (h : Heading) (l : Link) (j : Nat) :
    (s.setLink i h l).bare j = s.bare j := by
  simp only [bare, setLink, getElem?_adjust]
  split
  · rw [Option.map_map]
    rfl
  · rfl

/-! ## Detaching -/

/-- The waypoint whose link back is blocked when `i` gives up its link in heading `h` for one
to `partner`. -/
def stale? (s : Store K) (i : Nat) (h : Heading) (partner : Nat) : Option Nat :=
  (s.link i h).bind Link.target? |>.filter fun former =>
    former ≠ partner ∧ s.link former h.opposite = some (.leadsTo i)

theorem stale?_eq_some_iff {s : Store K} {i : Nat} {h : Heading} {partner a : Nat} :
    s.stale? i h partner = some a ↔
      s.link i h = some (.leadsTo a) ∧ a ≠ partner ∧
        s.link a h.opposite = some (.leadsTo i) := by
  cases hl : s.link i h with
  | none => simp [stale?, hl]
  | some l =>
    cases l <;> simp [stale?, hl, Link.target?, Option.filter_eq_some_iff]

/-- The store after the link back from a stale partner is blocked. -/
def released (s : Store K) (i : Nat) (h : Heading) (partner : Nat) : Store K :=
  match s.stale? i h partner with
  | some former => s.setLink former h.opposite .blocked
  | none => s

def releasedLog (s : Store K) (i : Nat) (h : Heading) (partner : Nat) : List (Event K) :=
  ((s.stale? i h partner).map (Event.replaced i h)).toList

theorem fetch_eq_ok {s : Store K} {i : Nat} {w : Waypoint K}
    (hw : s.waypoints[i]? = some w) : s.fetch i = .ok w := by
  simp only [fetch, hw]

/-- A detachment from a waypoint that leads somewhere else blocks the link back, if there is
one. -/
theorem run_detach {s : Store K} (hs : s.InRange) (i : Nat) (h : Heading) (partner : Nat) :
    (detach i h partner).run s =
      ⟨.ok (), s.released i h partner, s.releasedLog i h partner⟩ := by
  cases hl : s.link i h with
  | none => simp [detach, Call.run_bind, hl, released, releasedLog, stale?]
  | some l =>
    cases l with
    | leadsTo former =>
      obtain ⟨w, hw⟩ := exists_waypoint (hs hl)
      have hback : s.link former h.opposite = some (w.links.get h.opposite) := by
        simp [link, hw]
      by_cases same : former = partner
      · simp [detach, Call.run_bind, hl, same, released, releasedLog, stale?, Link.target?,
          Option.filter_some]
      · by_cases back : w.links.get h.opposite = .leadsTo i <;>
          simp [detach, Call.run_bind, hl, same, released, releasedLog, stale?, Link.target?,
            fetch_eq_ok hw, hback, back, Option.filter_some]
    | unknown => simp [detach, Call.run_bind, hl, released, releasedLog, stale?, Link.target?]
    | blocked => simp [detach, Call.run_bind, hl, released, releasedLog, stale?, Link.target?]
    | unassigned n =>
      simp [detach, Call.run_bind, hl, released, releasedLog, stale?, Link.target?]

@[simp] theorem size_released (s : Store K) (i : Nat) (h : Heading) (partner : Nat) :
    (s.released i h partner).size = s.size := by
  unfold released
  split <;> simp

@[simp] theorem bare_released (s : Store K) (i : Nat) (h : Heading) (partner j : Nat) :
    (s.released i h partner).bare j = s.bare j := by
  unfold released
  split <;> simp

/-- A detachment blocks at most one slot: the one that answers the link given up. -/
theorem link_released {s : Store K} (i : Nat) (h : Heading) (partner j : Nat) (k : Heading) :
    (s.released i h partner).link j k =
      if k = h.opposite ∧ s.stale? i h partner = some j then some .blocked
      else s.link j k := by
  cases hst : s.stale? i h partner with
  | none => simp [released, hst]
  | some former =>
    have back := (stale?_eq_some_iff.1 hst).2.2
    simp only [released, hst]
    rw [link_setLink_of_lt (lt_size_of_link back)]
    by_cases hj : j = former
    · simp [hj]
    · simp [hj, Ne.symm hj]

theorem InRange.released {s : Store K} (hs : s.InRange) (i : Nat) (h : Heading)
    (partner : Nat) : (s.released i h partner).InRange := by
  intro a k b hl
  rw [link_released] at hl
  split at hl
  · cases hl
  · simpa using hs hl

/-! ## Joining -/

def joined (s : Store K) (i : Nat) (h : Heading) (j : Nat) : Store K :=
  (((s.released i h j).released j h.opposite i).setLink i h (.leadsTo j)).setLink j h.opposite
    (.leadsTo i)

/-- The events of a join: the stale partner of the first end comes first. -/
def joinedLog (s : Store K) (i : Nat) (h : Heading) (j : Nat) : List (Event K) :=
  s.releasedLog i h j ++ (s.released i h j).releasedLog j h.opposite i

/-- Where all links lead to waypoints, a join succeeds. -/
theorem run_join {s : Store K} (hs : s.InRange) (i : Nat) (h : Heading) (j : Nat) :
    (join i h j).run s = ⟨.ok (), s.joined i h j, s.joinedLog i h j⟩ := by
  simp [join, Call.run_bind, run_detach hs, run_detach (hs.released i h j), joined, joinedLog]

@[simp] theorem size_joined (s : Store K) (i : Nat) (h : Heading) (j : Nat) :
    (s.joined i h j).size = s.size := by
  simp [joined]

@[simp] theorem bare_joined (s : Store K) (i : Nat) (h : Heading) (j a : Nat) :
    (s.joined i h j).bare a = s.bare a := by
  simp [joined]

/-- The first detachment of a join works on the other axis end, so the second one finds the
links that were there before. -/
theorem stale?_released (s : Store K) (i : Nat) (h : Heading) (j : Nat) :
    (s.released i h j).stale? j h.opposite i = s.stale? j h.opposite i := by
  ext a
  rw [stale?_eq_some_iff, stale?_eq_some_iff, link_released, link_released]
  have hself : ¬ (h.opposite = h.opposite ∧ s.stale? i h j = some j) := by
    rintro ⟨-, hst⟩
    exact (stale?_eq_some_iff.1 hst).2.1 rfl
  have hother : ¬ (h.opposite.opposite = h.opposite ∧ s.stale? i h j = some a) := by
    rintro ⟨hk, -⟩
    exact Heading.opposite_ne _ hk
  rw [if_neg hself, if_neg hother]

theorem link_joined {s : Store K} {i j : Nat} (hi : i < s.size) (hj : j < s.size) (h : Heading)
    (a : Nat) (k : Heading) :
    (s.joined i h j).link a k =
      if a = j ∧ k = h.opposite then some (.leadsTo i)
      else if a = i ∧ k = h then some (.leadsTo j)
      else if k = h ∧ s.stale? j h.opposite i = some a then some .blocked
      else if k = h.opposite ∧ s.stale? i h j = some a then some .blocked
      else s.link a k := by
  simp only [joined]
  rw [link_setLink_of_lt (by simpa using hj), link_setLink_of_lt (by simpa using hi),
    link_released, link_released, stale?_released, Heading.opposite_opposite]

/-! ## Joining again -/

/-- A store is known by its slots and by its waypoints apart from them. -/
theorem eq_of_bare_of_link {s t : Store K} (bare : ∀ i, s.bare i = t.bare i)
    (link : ∀ i h, s.link i h = t.link i h) : s = t := by
  ext i : 1
  have rest := bare i
  have slots := link i
  simp only [Store.bare, Store.link] at rest slots
  cases hw : s.waypoints[i]? with
  | none =>
    rw [hw, Option.map_none, eq_comm, Option.map_eq_none_iff] at rest
    rw [rest]
  | some w =>
    cases hv : t.waypoints[i]? with
    | none => rw [hw, hv] at rest; cases rest
    | some v =>
      rw [hw, hv] at rest slots
      have links : w.links = v.links := Compass.ext_get fun h => Option.some.inj (slots h)
      obtain ⟨id, x, y, _, object⟩ := w
      obtain ⟨id', x', y', _, object'⟩ := v
      cases links
      cases rest
      rfl

/-- Whoever leads to the partner already has nobody to give up. -/
theorem stale?_of_link {s : Store K} {i j : Nat} {h : Heading}
    (hl : s.link i h = some (.leadsTo j)) : s.stale? i h j = none := by
  simp [stale?, hl, Link.target?]

theorem link_joined_near {s : Store K} {i j : Nat} (hi : i < s.size) (hj : j < s.size)
    (h : Heading) : (s.joined i h j).link i h = some (.leadsTo j) := by
  rw [link_joined hi hj, if_neg fun c => Heading.opposite_ne h c.2.symm, if_pos ⟨rfl, rfl⟩]

theorem link_joined_far {s : Store K} {i j : Nat} (hi : i < s.size) (hj : j < s.size)
    (h : Heading) : (s.joined i h j).link j h.opposite = some (.leadsTo i) := by
  rw [link_joined hi hj, if_pos ⟨rfl, rfl⟩]

/-- To join two waypoints that are joined changes nothing. -/
theorem joined_eq_self {s : Store K} {i j : Nat} {h : Heading}
    (near : s.link i h = some (.leadsTo j)) (far : s.link j h.opposite = some (.leadsTo i)) :
    s.joined i h j = s := by
  refine eq_of_bare_of_link (fun _ => bare_joined ..) fun a k => ?_
  rw [link_joined (lt_size_of_link near) (lt_size_of_link far), stale?_of_link near,
    stale?_of_link far]
  split
  · next c => rw [c.1, c.2, far]
  split
  · next c => rw [c.1, c.2, near]
  simp

end Store

end WaypointMap
