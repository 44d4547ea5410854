import WaypointMap.Proofs.Heading
import WaypointMap.Report

/-!
# Blocked headings by name

An object of blocked flags may name a heading more than once, in one spelling or in several. The
last entry of a heading counts, so it does not matter how entries of different headings are mixed.
A key that names no heading is refused, the first one if there are many.
-/

namespace WaypointMap

namespace Report

open Heading (Spells)

section Entries

variable (entries : List (Text × Json))

/-- The entries for a heading, or those for none, in their order. -/
def entriesFor (named : Option Heading) : List (Text × Json) :=
  entries.filter (Heading.ofText? ·.1 = named)

/-- Whether a value is the one of the last entry for a heading. -/
def IsLastFor (h : Heading) (v : Json) : Prop :=
  ∃ before key after, entries = before ++ (key, v) :: after ∧ Spells key h ∧
    ∀ later ∈ after, ¬ Spells later.1 h

/-- Whether a key is the first one that names no heading. -/
def IsFirstUnknown (key : Text) : Prop :=
  ∃ before v after, entries = before ++ (key, v) :: after ∧
    (∀ earlier ∈ before, ∃ h, Spells earlier.1 h) ∧ ∀ h, ¬ Spells key h

end Entries

variable {entries entries' : List (Text × Json)} {flags : Compass Bool} {h : Heading}

theorem entriesFor_cons {entry : Text × Json} {named : Option Heading} :
    entriesFor (entry :: entries) named =
      if Heading.ofText? entry.1 = named then entry :: entriesFor entries named
      else entriesFor entries named := by
  rw [entriesFor, List.filter_cons]
  simp only [decide_eq_true_eq]
  rfl

theorem head?_entriesFor_eq_some_iff {named : Option Heading} {entry : Text × Json} :
    (entriesFor entries named).head? = some entry ↔
      ∃ before after, entries = before ++ entry :: after ∧ Heading.ofText? entry.1 = named ∧
        ∀ earlier ∈ before, Heading.ofText? earlier.1 ≠ named := by
  rw [entriesFor, List.head?_filter, List.find?_eq_some_iff_append]
  simp only [decide_eq_true_eq, Bool.not_eq_true', decide_eq_false_iff_not]
  constructor
  · rintro ⟨here, before, after, rfl, earlier⟩
    exact ⟨before, after, rfl, here, earlier⟩
  · rintro ⟨before, after, rfl, here, earlier⟩
    exact ⟨here, before, after, rfl, earlier⟩

/-- The last entry is the first one of the entries in reverse. -/
theorem getLast?_entriesFor (named : Option Heading) :
    (entriesFor entries named).getLast? = (entriesFor entries.reverse named).head? := by
  rw [List.getLast?_eq_head?_reverse, entriesFor, ← List.filter_reverse]
  rfl

theorem isFirstUnknown_iff {key : Text} :
    IsFirstUnknown entries key ↔ ∃ v, (entriesFor entries none).head? = some (key, v) := by
  simp only [head?_entriesFor_eq_some_iff, Heading.ofText?_ne_none_iff,
    Heading.ofText?_eq_none_iff]
  constructor
  · rintro ⟨before, v, after, parts, earlier, unknown⟩
    exact ⟨v, before, after, parts, unknown, earlier⟩
  · rintro ⟨v, before, after, parts, unknown, earlier⟩
    exact ⟨before, v, after, parts, earlier, unknown⟩

theorem isLastFor_iff {v : Json} :
    IsLastFor entries h v ↔ ∃ key, (entriesFor entries (some h)).getLast? = some (key, v) := by
  simp only [getLast?_entriesFor, head?_entriesFor_eq_some_iff, ne_eq,
    Heading.ofText?_eq_some_iff]
  constructor
  · rintro ⟨before, key, after, rfl, spelled, later⟩
    refine ⟨key, after.reverse, before.reverse, by simp, spelled, ?_⟩
    simpa using later
  · rintro ⟨key, after, before, parts, spelled, later⟩
    refine ⟨before.reverse, key, after.reverse, ?_, spelled, ?_⟩
    · rw [← List.reverse_reverse entries, parts]
      simp
    · simpa using later

/-! ## Going through the entries -/

theorem blockedEntries_of_unknown {entry : Text × Json}
    (unknown : (entriesFor entries none).head? = some entry) :
    blockedEntries flags entries = .error (.unknownHeading (.text entry.1)) := by
  induction entries generalizing flags with
  | nil => cases unknown
  | cons first rest ih =>
    rw [entriesFor_cons] at unknown
    rw [blockedEntries]
    cases named : Heading.ofText? first.1 with
    | some k =>
      rw [if_neg (by simp [named])] at unknown
      rw [Heading.ofJson_text_of_some named]
      exact ih unknown
    | none =>
      rw [if_pos named] at unknown
      cases unknown
      rw [Heading.ofJson_text_of_none named]

/-- The entries overwrite the flags that they start from, one after the other. -/
theorem blockedEntries_of_known (flags : Compass Bool) (known : entriesFor entries none = []) :
    ∃ flags', blockedEntries flags entries = .ok flags' ∧
      ∀ h, flags'.get h =
        ((entriesFor entries (some h)).getLast?.map (·.2.truth)).getD (flags.get h) := by
  induction entries generalizing flags with
  | nil => exact ⟨flags, rfl, fun _ => rfl⟩
  | cons first rest ih =>
    rw [entriesFor_cons] at known
    cases named : Heading.ofText? first.1 with
    | none =>
      rw [if_pos named] at known
      cases known
    | some k =>
      rw [if_neg (by simp [named])] at known
      obtain ⟨flags', read, last⟩ := ih (flags.set k first.2.truth) known
      refine ⟨flags', ?_, fun h => ?_⟩
      · rw [blockedEntries, Heading.ofJson_text_of_some named]
        exact read
      · rw [last, entriesFor_cons, Compass.get_set, named]
        by_cases same : k = h
        · subst same
          rw [if_pos rfl, if_pos rfl, List.getLast?_cons]
          cases (entriesFor rest (some k)).getLast? <;> rfl
        · rw [if_neg same, if_neg (by simpa using same)]

theorem entriesFor_none_eq_nil_iff :
    entriesFor entries none = [] ↔ ∀ entry ∈ entries, ∃ h, Spells entry.1 h := by
  simp only [entriesFor, List.filter_eq_nil_iff, decide_eq_true_eq, ← ne_eq,
    Heading.ofText?_ne_none_iff]

/-- An object of blocked flags is read if and only if all of its keys name headings. -/
theorem blockedField_object_cases (entries : List (Text × Json)) :
    (∃ entry, (entriesFor entries none).head? = some entry ∧
        blockedField (.object entries) = .error (.unknownHeading (.text entry.1))) ∨
      entriesFor entries none = [] ∧ ∃ flags, blockedField (.object entries) = .ok flags ∧
        ∀ h, flags.get h = ((entriesFor entries (some h)).getLast?.map (·.2.truth)).getD false := by
  cases unknown : entriesFor entries none with
  | cons entry rest =>
    exact .inl ⟨entry, rfl, blockedEntries_of_unknown (by rw [unknown]; rfl)⟩
  | nil =>
    obtain ⟨flags, read, last⟩ := blockedEntries_of_known (.replicate false) unknown
    refine .inr ⟨rfl, flags, read, fun h => ?_⟩
    rw [last, Compass.get_replicate]

/-- Entries of different headings may be mixed in any way. -/
theorem blockedField_object_eq
    (same : ∀ named, entriesFor entries named = entriesFor entries' named) :
    blockedField (.object entries) = blockedField (.object entries') := by
  obtain ⟨entry, first, refused⟩ | ⟨known, flags, read, last⟩ := blockedField_object_cases entries
  · obtain ⟨entry', first', refused'⟩ | ⟨known', -⟩ := blockedField_object_cases entries'
    · rw [← same, first, Option.some_inj] at first'
      rw [refused, refused', first']
    · rw [← same] at known'
      rw [known'] at first
      cases first
  · obtain ⟨entry', first', -⟩ | ⟨-, flags', read', last'⟩ := blockedField_object_cases entries'
    · rw [← same, known] at first'
      cases first'
    · rw [read, read']
      apply congrArg Except.ok
      apply Compass.ext_get
      intro h
      rw [last, last', same]

/-- The first key that names no heading is refused. -/
theorem blockedField_object_eq_error_iff {e : Error} :
    blockedField (.object entries) = .error e ↔
      ∃ key, IsFirstUnknown entries key ∧ e = .unknownHeading (.text key) := by
  simp only [isFirstUnknown_iff]
  obtain ⟨entry, first, refused⟩ | ⟨known, flags, read, -⟩ := blockedField_object_cases entries
  · rw [refused, first]
    constructor
    · rintro ⟨⟩
      exact ⟨entry.1, ⟨entry.2, rfl⟩, rfl⟩
    · rintro ⟨key, ⟨v, ⟨⟩⟩, rfl⟩
      rfl
  · rw [read, known]
    exact iff_of_false nofun (by rintro ⟨key, ⟨v, ⟨⟩⟩, -⟩)

theorem exists_blockedField_object_iff :
    (∃ flags, blockedField (.object entries) = .ok flags) ↔
      ∀ entry ∈ entries, ∃ h, Spells entry.1 h := by
  rw [← entriesFor_none_eq_nil_iff]
  obtain ⟨entry, first, refused⟩ | ⟨known, flags, read, -⟩ := blockedField_object_cases entries
  · refine iff_of_false ?_ fun known => ?_
    · rintro ⟨flags, read⟩
      cases refused.symm.trans read
    · rw [known] at first
      cases first
  · exact iff_of_true ⟨flags, read⟩ known

/-- A heading is blocked if the last entry for it says so. -/
theorem get_of_blockedField_object (read : blockedField (.object entries) = .ok flags) :
    flags.get h = true ↔ ∃ v, IsLastFor entries h v ∧ v.truth = true := by
  obtain ⟨entry, -, refused⟩ | ⟨-, flags', read', last⟩ := blockedField_object_cases entries
  · cases refused.symm.trans read
  · cases read'.symm.trans read
    simp only [isLastFor_iff, last]
    cases (entriesFor entries (some h)).getLast? with
    | none => simp
    | some entry =>
      constructor
      · exact fun truth => ⟨entry.2, ⟨entry.1, rfl⟩, truth⟩
      · rintro ⟨v, ⟨key, ⟨⟩⟩, truth⟩
        exact truth

/-- What comes of an object of blocked flags. The first key that names no heading is refused. If
there is none, a heading is blocked if the last entry for it says so; entries of different headings
may be mixed in any way. -/
theorem blockedField_entries (entries : List (Text × Json)) :
    (∀ e, blockedField (.object entries) = .error e ↔
      ∃ key, IsFirstUnknown entries key ∧ e = .unknownHeading (.text key)) ∧
    ((∃ flags, blockedField (.object entries) = .ok flags) ↔
      ∀ entry ∈ entries, ∃ h, Spells entry.1 h) ∧
    (∀ flags, blockedField (.object entries) = .ok flags →
      ∀ h, flags.get h = true ↔ ∃ v, IsLastFor entries h v ∧ v.truth = true) ∧
    ∀ entries', (∀ named, entriesFor entries' named = entriesFor entries named) →
      blockedField (.object entries') = blockedField (.object entries) :=
  ⟨fun _ => blockedField_object_eq_error_iff, exists_blockedField_object_iff,
    fun _ read _ => get_of_blockedField_object read, fun _ same => blockedField_object_eq same⟩

/-- The second entry for north is the one that counts. -/
example : blockedField (.object [(.ofString " N", .bool true), (.ofString "eaﬆ", .int 1),
    (.ofString "North ", .null)]) = .ok ⟨false, true, false, false⟩ := by
  rfl

end Report

end WaypointMap
