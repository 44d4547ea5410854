import Mathlib.Order.Bounds.Basic
import WaypointMap.Proofs.Search.Walk

/-!
# Discovery by levels

The level of a waypoint is the least number of steps of a walk to it. Waypoints are discovered in
the order of their levels: what is discovered later was shown by a waypoint that is not earlier in
the order, and no walk to it is shorter. So every waypoint is discovered after one that is linked
with it and lies one level below.
-/

namespace WaypointMap

namespace Store

variable {K : Type} {s : Store K} {u v w i j k m n : Nat} {walk : List Nat}

/-! ## Discovery along links -/

theorem mem_shown_iff (hk : k ≤ s.size) :
    v ∈ discovered (Search.neighborsAt s) u k ↔
      v = u ∨ ∃ m i, m < k ∧ (s.discovery u)[m]? = some i ∧ s.Linked i v := by
  simp only [mem_discovered_iff hk, discovery, Search.mem_neighborsAt_iff]

theorem nodup_discovery (s : Store K) (u : Nat) : (s.discovery u).Nodup := nodup_discovered ..

theorem getElem?_zero_discovery (s : Store K) (u : Nat) : (s.discovery u)[0]? = some u := by
  rw [discovery, ← getElem?_discovered (Nat.zero_le s.size)]
  rfl

theorem eq_of_getElem?_discovery (hv : (s.discovery u)[k]? = some v)
    (hv' : (s.discovery u)[m]? = some v) : k = m := by
  obtain ⟨hk, -⟩ := List.getElem?_eq_some_iff.1 hv
  exact (List.getElem?_inj hk (s.nodup_discovery u)).1 (hv.trans hv'.symm)

theorem length_discovery_le (hs : s.InRange) (hu : u < s.size) :
    (s.discovery u).length ≤ s.size := by
  refine Search.length_le_of_nodup (s.nodup_discovery u) fun v hv => ?_
  obtain rfl | ⟨m, i, -, -, h, hl⟩ := (mem_shown_iff (Nat.le_refl s.size)).1 hv
  · exact hu
  · exact hs hl

theorem mem_discovery_of_reaches (hs : s.InRange) (hu : u < s.size) (reached : s.Reaches u v) :
    v ∈ s.discovery u := by
  induction reached with
  | refl => exact List.mem_of_getElem? (s.getElem?_zero_discovery u)
  | tail _ linked ih =>
    obtain ⟨m, hi⟩ := List.getElem?_of_mem ih
    have bound := length_discovery_le hs hu
    have hm := (List.getElem?_eq_some_iff.1 hi).1
    exact (mem_shown_iff (Nat.le_refl s.size)).2 (.inr ⟨m, _, by omega, hi, linked⟩)

/-- Apart from the start, whatever is discovered is linked with an earlier waypoint. -/
theorem exists_earlier (hk : k < s.size) (later : 0 < k) (hv : (s.discovery u)[k]? = some v) :
    ∃ m i, m < k ∧ (s.discovery u)[m]? = some i ∧ s.Linked i v := by
  have known : v ∈ discovered (Search.neighborsAt s) u k := by
    rw [discovery, ← getElem?_discovered hk.le] at hv
    exact List.mem_of_getElem? hv
  obtain rfl | earlier := (mem_shown_iff hk.le).1 known
  · have first := eq_of_getElem?_discovery hv (s.getElem?_zero_discovery v)
    omega
  · exact earlier

/-- Whatever comes before a known waypoint is known. -/
theorem mem_shown_of_earlier (hn : n ≤ s.size)
    (known : v ∈ discovered (Search.neighborsAt s) u n) (hv : (s.discovery u)[k]? = some v)
    (hj : j ≤ k) (hw : (s.discovery u)[j]? = some w) :
    w ∈ discovered (Search.neighborsAt s) u n := by
  have early : discovered (Search.neighborsAt s) u n <+: s.discovery u := prefix_discovered hn
  obtain ⟨m, here⟩ := List.getElem?_of_mem known
  have hm := (List.getElem?_eq_some_iff.1 here).1
  obtain rfl := eq_of_getElem?_discovery (getElem?_of_isPrefix early here) hv
  exact mem_of_isPrefix early (hj.trans_lt hm) hw

/-- There is a walk to a waypoint that is no longer than its turn. -/
theorem exists_isWalk_of_discovery (hs : s.InRange) (hu : u < s.size)
    (hv : (s.discovery u)[k]? = some v) :
    ∃ walk, s.IsWalk u v walk ∧ walk.length ≤ k + 1 := by
  induction k using Nat.strong_induction_on generalizing v with
  | h k ih =>
    have bound := length_discovery_le hs hu
    have hk := (List.getElem?_eq_some_iff.1 hv).1
    obtain rfl | later := Nat.eq_zero_or_pos k
    · cases (s.getElem?_zero_discovery u).symm.trans hv
      exact ⟨[u], .single _ u, Nat.le_refl 1⟩
    · obtain ⟨m, i, hm, hi, linked⟩ := exists_earlier (by omega) later hv
      obtain ⟨walk, isWalk, short⟩ := ih m hm hi
      refine ⟨walk ++ [v], isWalk.concat linked, ?_⟩
      rw [List.length_append, List.length_singleton]
      omega

/-- To a waypoint that is discovered earlier, there is a walk that is not longer. -/
theorem exists_isWalk_of_earlier (hs : s.InRange) (hu : u < s.size) (isWalk : s.IsWalk u v walk)
    (hv : (s.discovery u)[k]? = some v) (hj : j ≤ k) (hw : (s.discovery u)[j]? = some w) :
    ∃ walk', s.IsWalk u w walk' ∧ walk'.length ≤ walk.length := by
  have bound := length_discovery_le hs hu
  refine isWalk.induction
    (P := fun v walk => ∀ k, (s.discovery u)[k]? = some v → ∀ j ≤ k, ∀ w,
      (s.discovery u)[j]? = some w → ∃ walk', s.IsWalk u w walk' ∧ walk'.length ≤ walk.length)
    ?_ ?_ k hv j hj w hw
  · intro k hk j hj w hw
    obtain rfl := eq_of_getElem?_discovery hk (s.getElem?_zero_discovery u)
    obtain rfl := Nat.le_zero.1 hj
    cases (s.getElem?_zero_discovery u).symm.trans hw
    exact ⟨[u], .single _ u, Nat.le_refl 1⟩
  · intro i v way lead linked ih k hk j hj w hw
    obtain ⟨m, hi⟩ := List.getElem?_of_mem
      (mem_discovery_of_reaches hs hu (IsWalk.reaches lead))
    have hm := (List.getElem?_eq_some_iff.1 hi).1
    -- when `i` has shown its neighbors, `v` is known, and so is whatever comes before it
    have turn : m + 1 ≤ s.size := by omega
    have shown : v ∈ discovered (Search.neighborsAt s) u (m + 1) :=
      (mem_shown_iff turn).2 (.inr ⟨m, i, Nat.lt_succ_self m, hi, linked⟩)
    obtain rfl | ⟨m', i', hm', hi', linked'⟩ := (mem_shown_iff turn).1
      (mem_shown_of_earlier turn shown hk hj hw)
    · exact ⟨[w], .single _ w, by simp⟩
    · obtain ⟨walk', isWalk', short⟩ := ih m hi m' (Nat.le_of_lt_succ hm') i' hi'
      refine ⟨walk' ++ [w], isWalk'.concat linked', ?_⟩
      simpa using short

/-! ## Levels -/

/-- Whether the shortest walks to a waypoint have some number of steps. -/
def IsLevel (s : Store K) (u v n : Nat) : Prop :=
  IsLeast {n | ∃ walk, s.IsWalk u v walk ∧ walk.length = n + 1} n

theorem exists_isLevel (isWalk : s.IsWalk u v walk) :
    ∃ n, s.IsLevel u v n ∧ n + 1 ≤ walk.length := by
  classical
  have nonempty : walk.length - 1 + 1 = walk.length := by
    refine Nat.sub_add_cancel (List.length_pos_iff.2 ?_)
    rintro rfl
    cases isWalk.head
  have some : ∃ n walk, s.IsWalk u v walk ∧ walk.length = n + 1 :=
    ⟨walk.length - 1, walk, isWalk, nonempty.symm⟩
  refine ⟨Nat.find some, ⟨Nat.find_spec some, fun n hn => Nat.find_min' some hn⟩, ?_⟩
  have least := Nat.find_min' some ⟨walk, isWalk, nonempty.symm⟩
  omega

theorem exists_isLevel_of_discovery (hs : s.InRange) (hu : u < s.size) (hv : v ∈ s.discovery u) :
    ∃ n, s.IsLevel u v n := by
  obtain ⟨k, hk⟩ := List.getElem?_of_mem hv
  obtain ⟨walk, isWalk, -⟩ := exists_isWalk_of_discovery hs hu hk
  obtain ⟨n, level, -⟩ := exists_isLevel isWalk
  exact ⟨n, level⟩

namespace IsLevel

theorem le_length (h : s.IsLevel u v n) (isWalk : s.IsWalk u v walk) : n + 1 ≤ walk.length := by
  obtain ⟨m, level, short⟩ := exists_isLevel isWalk
  exact h.unique level ▸ short

theorem reaches (h : s.IsLevel u v n) : s.Reaches u v := by
  obtain ⟨walk, isWalk, -⟩ := h.1
  exact IsWalk.reaches isWalk

theorem zero (s : Store K) (u : Nat) : s.IsLevel u u 0 :=
  ⟨⟨[u], .single _ u, rfl⟩, fun _ _ => Nat.zero_le _⟩

theorem eq_start (h : s.IsLevel u v 0) : v = u := by
  obtain ⟨walk, isWalk, length⟩ := h.1
  obtain ⟨i, rfl⟩ := List.length_eq_one_iff.1 length
  cases isWalk.head
  exact (Option.some.inj isWalk.last).symm

/-- A link leads at most one level up. -/
theorem le_succ (h : s.IsLevel u i n) (linked : s.Linked i v) (hv : s.IsLevel u v m) :
    m ≤ n + 1 := by
  obtain ⟨walk, isWalk, length⟩ := h.1
  have least := hv.le_length (isWalk.concat linked)
  rw [List.length_append, List.length_singleton] at least
  omega

theorem exists_lower (h : s.IsLevel u v (n + 1)) : ∃ i, s.IsLevel u i n ∧ s.Linked i v := by
  obtain ⟨walk, isWalk, length⟩ := h.1
  obtain ⟨-, rfl⟩ | ⟨i, before, lead, linked, rfl⟩ := isWalk.cases_last
  · cases length
  · rw [List.length_append, List.length_singleton] at length
    obtain ⟨m, level, short⟩ := exists_isLevel lead
    have least := level.le_succ linked h
    obtain rfl : m = n := by omega
    exact ⟨i, level, linked⟩

/-- A way that climbs one level at each step has as many steps as levels. -/
theorem length_eq {r : Nat → Nat → Prop} (h : s.IsLevel u v n) (lead : Leads r u v walk)
    (climbs : ∀ i j n, r i j → s.IsLevel u j n → ∃ m, n = m + 1 ∧ s.IsLevel u i m) :
    walk.length = n + 1 := by
  refine lead.induction (P := fun j way => ∀ n, s.IsLevel u j n → way.length = n + 1) ?_ ?_ n h
  · intro n level
    rw [level.unique (zero s u), List.length_singleton]
  · intro i j way _ step ih n level
    obtain ⟨m, rfl, lower⟩ := climbs i j n step level
    rw [List.length_append, List.length_singleton, ih m lower]

/-- Levels do not fall in the order of discovery. -/
theorem mono (hs : s.InRange) (hu : u < s.size) (h : s.IsLevel u v n)
    (hv : (s.discovery u)[k]? = some v) (hj : j ≤ k) (hw : (s.discovery u)[j]? = some w)
    (level : s.IsLevel u w m) : m ≤ n := by
  obtain ⟨walk, isWalk, length⟩ := h.1
  obtain ⟨walk', isWalk', short⟩ := exists_isWalk_of_earlier hs hu isWalk hv hj hw
  have least := level.le_length isWalk'
  omega

theorem lt_size (hs : s.InRange) (hu : u < s.size) (h : s.IsLevel u v n) : n < s.size := by
  obtain ⟨k, hv⟩ := List.getElem?_of_mem (mem_discovery_of_reaches hs hu h.reaches)
  obtain ⟨walk, isWalk, short⟩ := exists_isWalk_of_discovery hs hu hv
  have hk := (List.getElem?_eq_some_iff.1 hv).1
  have least := h.le_length isWalk
  have bound := length_discovery_le hs hu
  omega

/-- Apart from the start, a waypoint is discovered after one that is linked with it and lies one
level below. -/
theorem exists_earlier (hs : s.InRange) (hu : u < s.size) (h : s.IsLevel u v (n + 1))
    (hv : (s.discovery u)[k]? = some v) :
    ∃ m i, m < k ∧ (s.discovery u)[m]? = some i ∧ s.Linked i v ∧ s.IsLevel u i n := by
  obtain ⟨i, level, linked⟩ := h.exists_lower
  obtain ⟨m, hi⟩ := List.getElem?_of_mem (mem_discovery_of_reaches hs hu level.reaches)
  refine ⟨m, i, ?_, hi, linked, level⟩
  by_contra late
  have := level.mono hs hu hi (Nat.le_of_not_lt late) hv h
  omega

end IsLevel

end Store

end WaypointMap
