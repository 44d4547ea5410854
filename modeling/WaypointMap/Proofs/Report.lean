import WaypointMap.Proofs.Checked
import WaypointMap.Report

/-!
# Reports that are refused

A value that is no report is refused with a complaint about it, except for numbers that are out of
range: a coordinate that is an integer too large for a double, or an origin that is infinite. These
fail with an overflow, unless a field that is read earlier is wrong.
-/

namespace WaypointMap

open Checked

theorem Heading.failsIn_ofJson (v : Json) : (Heading.ofJson v).FailsIn [.heading] := by
  unfold Heading.ofJson
  split
  · exact failsIn_ok _
  · exact failsIn_error (.head _)

namespace Report

/-! ## Fields -/

section Fields

variable (key : String) (v : Json)

theorem reads_number : (number key v).Reads v.IsOversized := by
  by_cases large : v.IsOversized
  · have tooLarge : number key v = .error .integerTooLarge := by
      obtain ⟨n, rfl, -⟩ := id large
      exact congrArg (·.getD (.error (.fieldNotNumber key (.int n))))
        (Json.number?_of_isOversized large)
    exact .overflow tooLarge rfl large
  · unfold number
    split
    · split
      · exact .value rfl large
      · exact .complaint rfl rfl large
    · obtain absent | ⟨x, present⟩ := Json.number?_of_not_isOversized large
      · exact .complaint (by rw [absent]; rfl) rfl large
      · exact .value (by rw [present]; rfl) large

theorem reads_integer : (integer key v).Reads v.IsEndless := by
  unfold integer
  split
  · exact .value rfl (by rintro ⟨_, _, ⟨⟩, _⟩)
  · next x =>
    split
    next negative infinite => exact .overflow rfl rfl ⟨x, negative, rfl, infinite⟩
    next b finite =>
      have small : ¬ (Json.decimal x).IsEndless := by
        rintro ⟨_, negative, ⟨⟩, infinite⟩
        exact finite negative infinite
      split
      · exact .value rfl small
      · exact .complaint rfl rfl small
  · have small (t : Text) : ¬ (Json.text t).IsEndless := by
      rintro ⟨_, _, ⟨⟩, _⟩
    split
    · exact .value rfl (small _)
    · exact .complaint rfl rfl (small _)
  · next decimal _ =>
    refine .complaint rfl rfl ?_
    rintro ⟨x, _, rfl, _⟩
    exact decimal x rfl

end Fields

theorem failsIn_blockedEntries (flags : Compass Bool) (entries : List (Text × Json)) :
    (blockedEntries flags entries).FailsIn [.heading] := by
  induction entries generalizing flags with
  | nil => exact failsIn_ok flags
  | cons entry rest ih =>
    have named := Heading.failsIn_ofJson (.text entry.1)
    rw [blockedEntries]
    split
    · exact ih _
    next e refused => exact failsIn_error (named refused)

theorem failsIn_blockedField (v : Json) : (blockedField v).FailsIn [.value, .heading] := by
  unfold blockedField
  split
  · exact failsIn_ok _
  · exact (failsIn_blockedEntries _ _).mono (by simp)
  · exact failsIn_ok _
  · exact failsIn_error (.head _)

theorem required_eq_ok_iff {key : String} {entries : List (Text × Json)} {v : Json} :
    required key entries = .ok v ↔ optional key entries = some v := by
  unfold required
  split
  · next w found => simp [found]
  · next absent => simp [absent]

theorem failsIn_required (key : String) (entries : List (Text × Json)) :
    (required key entries).FailsIn [.value] := by
  unfold required
  split
  · exact failsIn_ok _
  · exact failsIn_error (.head _)

/-! ## Reports -/

section Entries

variable (entries : List (Text × Json)) (key : String)

/-- Whether a report has a field with a value of some kind. -/
def Has (kind : Json → Prop) : Prop := ∃ v, optional key entries = some v ∧ kind v

/-- Whether a report has a field with a number. -/
def HasNumber : Prop := Has entries key fun v => ∃ x, number key v = .ok x

/-- Whether a report has a field with an integer. -/
def HasInteger : Prop := Has entries key fun v => ∃ n, integer key v = .ok n

/-- A field that has to be there and a number. -/
def numberField : Checked Float := do number key (← required key entries)

/-- A field that has to be there and an integer. -/
def integerField : Checked Int := do integer key (← required key entries)

/-- A field that has to be there and a heading. -/
def headingField : Checked Heading := do Heading.ofJson (← required "direction" entries)

theorem failsIn_numberField : (numberField entries key).FailsIn [.value, .overflow] :=
  ((failsIn_required key entries).mono (by simp)).bind fun v _ => (reads_number key v).failsIn

theorem failsIn_integerField : (integerField entries key).FailsIn [.value, .overflow] :=
  ((failsIn_required key entries).mono (by simp)).bind fun v _ => (reads_integer key v).failsIn

theorem failsIn_headingField : (headingField entries).FailsIn [.value, .heading] :=
  ((failsIn_required "direction" entries).mono (by simp)).bind fun v _ =>
    (Heading.failsIn_ofJson v).mono (by simp)

/-- A field that has to be there overflows as its value does. -/
theorem overflows_required_bind_iff {α : Type} {check : Json → Checked α} {tooLarge : Json → Prop}
    (reads : ∀ v, (check v).Reads (tooLarge v)) :
    (required key entries >>= check).Overflows ↔ Has entries key tooLarge := by
  have present := (failsIn_required key entries).not_overflows (by decide)
  simp only [overflows_bind_iff, present, false_or, required_eq_ok_iff, (reads _).overflows_iff,
    Has]

theorem exists_required_bind_iff {α : Type} {check : Json → Checked α} :
    (∃ a, required key entries >>= check = .ok a) ↔
      Has entries key fun v => ∃ a, check v = .ok a := by
  simp only [bind_eq_ok_iff, required_eq_ok_iff, Has]
  constructor
  · rintro ⟨a, v, found, read⟩
    exact ⟨v, found, a, read⟩
  · rintro ⟨v, found, a, read⟩
    exact ⟨a, v, found, read⟩

theorem overflows_numberField_iff :
    (numberField entries key).Overflows ↔ Has entries key Json.IsOversized :=
  overflows_required_bind_iff entries key (reads_number key)

theorem exists_numberField_iff : (∃ x, numberField entries key = .ok x) ↔ HasNumber entries key :=
  exists_required_bind_iff entries key

theorem overflows_integerField_iff :
    (integerField entries key).Overflows ↔ Has entries key Json.IsEndless :=
  overflows_required_bind_iff entries key (reads_integer key)

theorem exists_integerField_iff :
    (∃ n, integerField entries key = .ok n) ↔ HasInteger entries key :=
  exists_required_bind_iff entries key

theorem overflows_origin_iff :
    (integer "origin" ((optional "origin" entries).getD (.int 0))).Overflows ↔
      Has entries "origin" Json.IsEndless := by
  rw [(reads_integer _ _).overflows_iff, Has]
  cases optional "origin" entries with
  | none => exact iff_of_false (by rintro ⟨_, _, ⟨⟩, _⟩) (by rintro ⟨_, ⟨⟩, _⟩)
  | some v => simp

/-- The reading of a spot, field by field. -/
theorem waypointOf_eq :
    waypointOf entries = do
      let x ← numberField entries "x"
      let y ← numberField entries "y"
      let blocked ← blockedField ((optional "blocked" entries).getD .null)
      let origin ← integer "origin" ((optional "origin" entries).getD (.int 0))
      let heading ← match optional "direction" entries with
        | some v => Heading.ofJson v
        | none => .ok .north
      return waypoint x y blocked origin heading := by
  symm
  simp only [numberField, bind_assoc]
  rfl

theorem objectOf_eq :
    objectOf entries = do
      let origin ← integerField entries "origin"
      let x ← numberField entries "x"
      let y ← numberField entries "y"
      let heading ← headingField entries
      return object origin x y heading := by
  simp only [objectOf, numberField, integerField, headingField, bind_assoc]

theorem failsIn_waypointOf : (waypointOf entries).FailsIn [.value, .heading, .overflow] := by
  have number (key : String) :
      (numberField entries key).FailsIn [.value, .heading, .overflow] :=
    (failsIn_numberField entries key).mono (by simp)
  have blocked (v : Json) : (blockedField v).FailsIn [.value, .heading, .overflow] :=
    (failsIn_blockedField v).mono (by simp)
  have integer (v : Json) : (integer "origin" v).FailsIn [.value, .heading, .overflow] :=
    (reads_integer "origin" v).failsIn.mono (by simp)
  have heading (v : Json) : (Heading.ofJson v).FailsIn [.value, .heading, .overflow] :=
    (Heading.failsIn_ofJson v).mono (by simp)
  rw [waypointOf_eq]
  refine (number "x").bind fun x _ => (number "y").bind fun y _ => ?_
  refine (blocked _).bind fun flags _ => (integer _).bind fun origin _ => ?_
  split
  · exact (heading _).bind fun h _ => failsIn_ok _
  · exact failsIn_ok _

theorem failsIn_objectOf : (objectOf entries).FailsIn [.value, .heading, .overflow] := by
  have integer : (integerField entries "origin").FailsIn [.value, .heading, .overflow] :=
    (failsIn_integerField entries "origin").mono (by simp)
  have number (key : String) :
      (numberField entries key).FailsIn [.value, .heading, .overflow] :=
    (failsIn_numberField entries key).mono (by simp)
  have heading : (headingField entries).FailsIn [.value, .heading, .overflow] :=
    (failsIn_headingField entries).mono (by simp)
  rw [objectOf_eq]
  refine integer.bind fun origin _ => (number "x").bind fun x _ => (number "y").bind fun y _ => ?_
  exact heading.bind fun h _ => failsIn_ok _

/-- The numbers out of range at which the reading of a spot stops: all that is read before them is
as it should be. -/
def SpotOverflows : Prop :=
  Has entries "x" Json.IsOversized ∨
    HasNumber entries "x" ∧ (Has entries "y" Json.IsOversized ∨
      HasNumber entries "y" ∧
        (∃ flags, blockedField ((optional "blocked" entries).getD .null) = .ok flags) ∧
        Has entries "origin" Json.IsEndless)

theorem overflows_waypointOf_iff : (waypointOf entries).Overflows ↔ SpotOverflows entries := by
  have blocked := (failsIn_blockedField ((optional "blocked" entries).getD .null)).not_overflows
    (by decide)
  have heading (v : Json) : (Heading.ofJson v).FailsIn [.heading] := Heading.failsIn_ofJson v
  rw [SpotOverflows, waypointOf_eq]
  simp only [← overflows_numberField_iff, ← exists_numberField_iff, ← overflows_origin_iff]
  refine overflows_bind_iff_of fun x _ => overflows_bind_iff_of fun y _ => ?_
  refine Iff.trans ?_ (or_iff_right blocked)
  refine overflows_bind_iff_of fun flags _ => overflows_bind_of_not fun origin _ => ?_
  split
  · exact ((heading _).bind fun h _ => failsIn_ok _).not_overflows (by decide)
  · exact not_overflows_ok _

/-- The numbers out of range at which the reading of an object stops. -/
def ObjectOverflows : Prop :=
  Has entries "origin" Json.IsEndless ∨
    HasInteger entries "origin" ∧ (Has entries "x" Json.IsOversized ∨
      HasNumber entries "x" ∧ Has entries "y" Json.IsOversized)

theorem overflows_objectOf_iff : (objectOf entries).Overflows ↔ ObjectOverflows entries := by
  have heading := failsIn_headingField entries
  rw [ObjectOverflows, objectOf_eq]
  simp only [← overflows_integerField_iff, ← exists_integerField_iff,
    ← overflows_numberField_iff, ← exists_numberField_iff]
  refine overflows_bind_iff_of fun origin _ => overflows_bind_iff_of fun x _ => ?_
  refine overflows_bind_of_not fun y _ => ?_
  exact (heading.bind fun h _ => failsIn_ok _).not_overflows (by decide)

/-- Whether a report is one of a kind. -/
def IsKind (name : String) : Prop :=
  (optional "type" entries).getD defaultKind = .text (.ofString name)

/-- An object is read as a report of its kind. -/
theorem ofJson_cases :
    IsKind entries "waypoint" ∧ ofJson (.object entries) = waypointOf entries ∨
      IsKind entries "object" ∧ ofJson (.object entries) = objectOf entries ∨
      (¬ IsKind entries "waypoint" ∧ ¬ IsKind entries "object" ∧
        ∃ kind, ofJson (.object entries) = .error (.unknownReportKind kind)) := by
  simp only [IsKind, ofJson]
  generalize (optional "type" entries).getD defaultKind = kind
  cases kind with
  | text t =>
    by_cases spot : t = .ofString "waypoint"
    · exact .inl ⟨congrArg Json.text spot, if_pos spot⟩
    by_cases object : t = .ofString "object"
    · refine .inr (.inl ⟨congrArg Json.text object, ?_⟩)
      dsimp only
      rw [if_neg spot, if_pos object]
    · refine .inr (.inr ⟨mt Json.text.inj spot, mt Json.text.inj object, .text t, ?_⟩)
      dsimp only
      rw [if_neg spot, if_neg object]
  | null => exact .inr (.inr ⟨by rintro ⟨⟩, by rintro ⟨⟩, _, rfl⟩)
  | bool b => exact .inr (.inr ⟨by rintro ⟨⟩, by rintro ⟨⟩, _, rfl⟩)
  | int n => exact .inr (.inr ⟨by rintro ⟨⟩, by rintro ⟨⟩, _, rfl⟩)
  | decimal x => exact .inr (.inr ⟨by rintro ⟨⟩, by rintro ⟨⟩, _, rfl⟩)
  | list items => exact .inr (.inr ⟨by rintro ⟨⟩, by rintro ⟨⟩, _, rfl⟩)
  | object entries => exact .inr (.inr ⟨by rintro ⟨⟩, by rintro ⟨⟩, _, rfl⟩)

end Entries

/-- Whether the reading of a value as a report stops at a number out of range. -/
def Overflows (v : Json) : Prop :=
  ∃ entries, v = .object entries ∧
    (IsKind entries "waypoint" ∧ SpotOverflows entries ∨
      IsKind entries "object" ∧ ObjectOverflows entries)

theorem not_isKind_both {entries : List (Text × Json)} (spot : IsKind entries "waypoint") :
    ¬ IsKind entries "object" := by
  intro object
  have names := Json.text.inj (spot.symm.trans object)
  exact absurd names (by decide)

theorem ofJson_of_not_object {v : Json} (other : ∀ entries, v ≠ .object entries) :
    ofJson v = .error (.reportNotObject v) := by
  unfold ofJson
  split
  · exact absurd rfl (other _)
  · rfl

/-- Reading a report fails with a complaint about it or about a heading in it, or it overflows. -/
theorem failsIn_ofJson (v : Json) : (ofJson v).FailsIn [.value, .heading, .overflow] := by
  by_cases object : ∃ entries, v = .object entries
  · obtain ⟨entries, rfl⟩ := object
    obtain ⟨-, read⟩ | ⟨-, read⟩ | ⟨-, -, kind, read⟩ := ofJson_cases entries
    · exact read ▸ failsIn_waypointOf entries
    · exact read ▸ failsIn_objectOf entries
    · exact read ▸ failsIn_error (.head _)
  · rw [ofJson_of_not_object (not_exists.1 object)]
    exact failsIn_error (.head _)

theorem overflows_ofJson_iff (v : Json) : (ofJson v).Overflows ↔ Overflows v := by
  by_cases object : ∃ entries, v = .object entries
  · obtain ⟨entries, rfl⟩ := object
    simp only [Overflows, Json.object.injEq, exists_eq_left']
    obtain ⟨spot, read⟩ | ⟨object, read⟩ | ⟨spot, object, kind, read⟩ := ofJson_cases entries
    · rw [read, overflows_waypointOf_iff]
      simp only [spot, not_isKind_both spot, true_and, false_and, or_false]
    · have spot : ¬ IsKind entries "waypoint" := fun spot => not_isKind_both spot object
      rw [read, overflows_objectOf_iff]
      simp only [spot, object, true_and, false_and, false_or]
    · rw [read, overflows_error_iff]
      simp only [spot, object, false_and, or_false, iff_false]
      rintro ⟨⟩
  · rw [ofJson_of_not_object (not_exists.1 object), overflows_error_iff]
    exact iff_of_false (by rintro ⟨⟩) fun ⟨entries, same, _⟩ => object ⟨entries, same⟩

/-- Reports are read up to the first that is refused. -/
theorem ofList_of_refused {before after : List Json} {v : Json} {e : Error}
    (earlier : ∀ u ∈ before, ∃ report, ofJson u = .ok report) (refused : ofJson v = .error e) :
    ofList (before ++ v :: after) = .error e := by
  induction before with
  | nil =>
    rw [List.nil_append, ofList, refused]
    rfl
  | cons u rest ih =>
    obtain ⟨report, read⟩ := earlier u List.mem_cons_self
    have later := ih fun w hw => earlier w (List.mem_cons_of_mem _ hw)
    rw [List.cons_append, ofList, read, later]
    rfl

end Report

end WaypointMap
