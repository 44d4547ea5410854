import WaypointMap.Proofs.Graph.Change

/-!
# What a new link changes

A new link takes up two slots, one at each end. Where such a slot led to some other waypoint
before, that one is a former partner: its link back is blocked, and a warning says so. All other
slots stay as they are, however the ends and the former partners coincide.
-/

namespace WaypointMap

variable {K : Type}

namespace Store

variable {s : Store K}

/-! ## Former partners -/

/-- The waypoint other than `partner` that a slot leads to. -/
def former? (s : Store K) (i : Nat) (h : Heading) (partner : Nat) : Option Nat :=
  (s.link i h).bind Link.target? |>.filter (· ≠ partner)

theorem former?_eq_some_iff {i : Nat} {h : Heading} {partner a : Nat} :
    s.former? i h partner = some a ↔ s.link i h = some (.leadsTo a) ∧ a ≠ partner := by
  cases hl : s.link i h with
  | none => simp [former?, hl]
  | some l => cases l <;> simp [former?, hl, Link.target?, Option.filter_eq_some_iff]

theorem former?_congr {u : Store K} {i : Nat} {h : Heading} (same : u.link i h = s.link i h)
    (partner : Nat) : u.former? i h partner = s.former? i h partner := by
  rw [former?, former?, same]

/-- Where links go both ways, every former partner is stale. -/
theorem WellFormed.stale?_eq_former? (hs : s.WellFormed) (i : Nat) (h : Heading)
    (partner : Nat) : s.stale? i h partner = s.former? i h partner := by
  ext a
  rw [hs.stale?_eq_some_iff, former?_eq_some_iff]

/-- The warnings of a new link: one for the former partner of the first end, and then one for
that of the second. -/
def warnings (s : Store K) (i : Nat) (h : Heading) (j : Nat) : List (Event K) :=
  ((s.former? i h j).map (.replaced i h)).toList ++
    ((s.former? j h.opposite i).map (.replaced j h.opposite)).toList

theorem warnings_congr {u : Store K} {i j : Nat} {h : Heading}
    (near : u.former? i h j = s.former? i h j)
    (far : u.former? j h.opposite i = s.former? j h.opposite i) :
    u.warnings i h j = s.warnings i h j := by
  rw [warnings, warnings, near, far]

theorem WellFormed.joinedLog_eq (hs : s.WellFormed) (i : Nat) (h : Heading) (j : Nat) :
    s.joinedLog i h j = s.warnings i h j := by
  rw [joinedLog, releasedLog, releasedLog, stale?_released, hs.stale?_eq_former?,
    hs.stale?_eq_former?]
  rfl

theorem level_of_mem_warnings {i : Nat} {h : Heading} {j : Nat} {e : Event K}
    (he : e ∈ s.warnings i h j) : e.level = .warning := by
  rw [warnings, List.mem_append, Option.mem_toList, Option.mem_toList, Option.map_eq_some_iff,
    Option.map_eq_some_iff] at he
  obtain ⟨a, -, rfl⟩ | ⟨a, -, rfl⟩ := he
  · rfl
  · rfl

/-! ## The slots after a new link -/

/-- Whether the slots of a store became those of another by a new link from `i` in heading `h`
to `j`. Either end may be new as well. -/
structure Relinked (s : Store K) (i : Nat) (h : Heading) (j : Nat) (t : Store K) : Prop where
  near : t.link i h = some (.leadsTo j)
  far : t.link j h.opposite = some (.leadsTo i)
  nearFormer : ∀ {a : Nat}, s.former? i h j = some a → t.link a h.opposite = some .blocked
  farFormer : ∀ {a : Nat}, s.former? j h.opposite i = some a → t.link a h = some .blocked
  kept : ∀ {a : Nat} {k : Heading}, a < s.size → ¬ (a = i ∧ k = h) →
    ¬ (a = j ∧ k = h.opposite) → ¬ (k = h.opposite ∧ s.former? i h j = some a) →
    ¬ (k = h ∧ s.former? j h.opposite i = some a) → t.link a k = s.link a k

theorem WellFormed.relinked_joined (hs : s.WellFormed) {i j : Nat} (hi : i < s.size)
    (hj : j < s.size) (h : Heading) : s.Relinked i h j (s.joined i h j) := by
  have slot := link_joined hi hj h
  simp only [hs.stale?_eq_former?] at slot
  have turn : h ≠ h.opposite := (Heading.opposite_ne h).symm
  refine ⟨link_joined_near hi hj h, link_joined_far hi hj h, ?_, ?_, ?_⟩
  · intro a former
    have ne := (former?_eq_some_iff.1 former).2
    rw [slot, if_neg fun c => ne c.1, if_neg fun c => turn c.2.symm, if_neg fun c => turn c.1.symm,
      if_pos ⟨rfl, former⟩]
  · intro a former
    have ne := (former?_eq_some_iff.1 former).2
    rw [slot, if_neg fun c => turn c.2, if_neg fun c => ne c.1, if_pos ⟨rfl, former⟩]
  · intro a k _ near far nearFormer farFormer
    rw [slot, if_neg far, if_neg near, if_neg farFormer, if_neg nearFormer]

/-- What a link changes can be told from any store that has the same older slots, if its other
slots lead nowhere. -/
theorem Relinked.of_older {u t : Store K} {i j : Nat} {h : Heading} (new : u.Relinked i h j t)
    (older : ∀ {a : Nat} (k : Heading), a < s.size → u.link a k = s.link a k)
    (near : u.former? i h j = s.former? i h j)
    (far : u.former? j h.opposite i = s.former? j h.opposite i) : s.Relinked i h j t := by
  refine ⟨new.near, new.far, fun former => new.nearFormer (near.trans former),
    fun former => new.farFormer (far.trans former), ?_⟩
  intro a k ha
  obtain ⟨l, hl⟩ := exists_link ha k
  have known : a < u.size := lt_size_of_link ((older k ha).trans hl)
  rw [← near, ← far, ← older k ha]
  exact new.kept known

/-- A new link between two waypoints, or from one to itself, leads from the one to the other and
back. The former partners of its two slots lose their links back, all other slots stay as they
are, and so does everything else about every waypoint. The log holds a warning for each of the
former partners, and nothing else. -/
theorem connect_relinks [Scalar K] (hs : s.Reachable) {a b : Nat} (ha : a < s.size)
    (hb : b < s.size) (h : Heading) :
    let outcome := (connect (.int a) (.ok h) (.int b)).run s
    outcome.result = .ok () ∧ s.Relinked a h b outcome.state ∧
      outcome.state.size = s.size ∧ (∀ i, outcome.state.bare i = s.bare i) ∧
      outcome.log = s.warnings a h b ∧ ∀ e ∈ outcome.log, e.level = .warning := by
  have wellFormed := hs.wellFormed
  rw [run_connect_of_lt wellFormed.inRange ha hb h, wellFormed.joinedLog_eq]
  exact ⟨rfl, wellFormed.relinked_joined ha hb h, size_joined .., bare_joined s a h b, rfl,
    fun e => level_of_mem_warnings⟩

/-- Two pairs of linked waypoints, and a waypoint that is linked with itself. -/
def couples : List (Request Float) :=
  List.replicate 5 (.create (.ok 0.0) (.ok 0.0) (.ok (.replicate false)) false) ++
    [.connect (.int 0) (.ok .east) (.int 1), .connect (.int 2) (.ok .east) (.int 3),
      .connect (.int 4) (.ok .north) (.int 4)]

/-- One of each pair is left behind, each with a warning. -/
theorem connect_relinks_couples :
    let s := (Request.run (.empty .default) couples).store
    0 < s.size ∧ 3 < s.size ∧
      (let outcome := (connect (.int 0) (.ok .east) (.int 3)).run s
      outcome.result = .ok () ∧ outcome.state.link 1 .west = some .blocked ∧
        outcome.state.link 2 .east = some .blocked ∧
        outcome.state.link 4 .north = some (.leadsTo 4) ∧ outcome.state.bare 1 = s.bare 1 ∧
        outcome.log.map Event.line =
          ["WARNING Waypoint 0: replacing east link to 1, marking 1 west blocked",
            "WARNING Waypoint 3: replacing west link to 2, marking 2 east blocked"]) := by
  intro s
  have first : 0 < s.size := by decide +kernel
  have last : 3 < s.size := by decide +kernel
  have self : s.link 4 .north = some (.leadsTo 4) := by decide +kernel
  obtain ⟨result, new, -, bare, log, -⟩ := connect_relinks (s := s) ⟨_, _, rfl⟩ first last .east
  refine ⟨first, last, result, new.nearFormer (by decide +kernel), new.farFormer (by decide +kernel),
    (new.kept ?_ ?_ ?_ ?_ ?_).trans self, bare 1, ?_⟩
  · decide +kernel
  · decide
  · decide
  · decide
  · decide
  · exact (congrArg (List.map Event.line) log).trans (by decide +kernel)

end Store

end WaypointMap
