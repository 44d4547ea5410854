import WaypointMap.Proofs.Double.Integer
import WaypointMap.Scalar

/-!
# How checks fail

A chain of checks fails as the first of its checks that fails. So what it fails with is told by the
categories of errors of the single checks, and it overflows if all checks before one that overflows
succeed.
-/

namespace WaypointMap

namespace Checked

variable {α β : Type} {r : Checked α} {f : α → Checked β} {e : Error}

theorem bind_eq_ok_iff {b : β} : r >>= f = .ok b ↔ ∃ a, r = .ok a ∧ f a = .ok b := by
  cases r with
  | error e =>
    constructor
    · rintro ⟨⟩
    · rintro ⟨_, ⟨⟩, _⟩
  | ok a =>
    constructor
    · exact fun succeeded => ⟨a, rfl, succeeded⟩
    · rintro ⟨_, ⟨⟩, succeeded⟩
      exact succeeded

theorem bind_eq_error_iff :
    r >>= f = .error e ↔ r = .error e ∨ ∃ a, r = .ok a ∧ f a = .error e := by
  cases r with
  | error e' =>
    constructor
    · rintro ⟨⟩
      exact .inl rfl
    · rintro (⟨⟨⟩⟩ | ⟨_, ⟨⟩, _⟩)
      rfl
  | ok a =>
    constructor
    · exact fun failed => .inr ⟨a, rfl, failed⟩
    · rintro (⟨⟨⟩⟩ | ⟨_, ⟨⟩, failed⟩)
      exact failed

/-- Answers can be compared by evaluation, checks cannot. -/
theorem eq_ok_of_toOption {a : α} (h : r.toOption = some a) : r = .ok a := by
  cases r with
  | error e => cases h
  | ok b => exact congrArg Except.ok (Option.some.inj h)

/-- A list of checks that all succeed, one by one. -/
theorem exists_mapM {R : α → β → Prop} {l : List α}
    (each : ∀ a ∈ l, ∃ b, f a = .ok b ∧ R a b) :
    ∃ bs, l.mapM f = .ok bs ∧ List.Forall₂ R l bs := by
  induction l with
  | nil => exact ⟨[], rfl, .nil⟩
  | cons a rest ih =>
    obtain ⟨b, hb, related⟩ := each a List.mem_cons_self
    obtain ⟨bs, hbs, all⟩ := ih fun a' ha' => each a' (List.mem_cons_of_mem _ ha')
    exact ⟨b :: bs, by rw [List.mapM_cons, hb, hbs]; rfl, .cons related all⟩

/-! ## Categories of failures -/

/-- Whether a check, if it fails, does so with an error of certain categories. -/
def FailsIn (r : Checked α) (categories : List Error.Category) : Prop :=
  ∀ ⦃e : Error⦄, r = .error e → e.category ∈ categories

/-- Whether a check fails because a number is too large. -/
def Overflows (r : Checked α) : Prop := ∃ e, r = .error e ∧ e.category = .overflow

variable {categories categories' : List Error.Category}

theorem failsIn_ok (a : α) : FailsIn (.ok a) categories := by
  intro e failed
  cases failed

theorem failsIn_error (h : e.category ∈ categories) :
    FailsIn (.error e : Checked α) categories := by
  intro e' failed
  cases failed
  exact h

theorem FailsIn.mono (h : r.FailsIn categories) (more : categories ⊆ categories') :
    r.FailsIn categories' := fun _ failed => more (h failed)

theorem FailsIn.bind (first : r.FailsIn categories)
    (later : ∀ a, r = .ok a → (f a).FailsIn categories) : (r >>= f).FailsIn categories := by
  intro e failed
  obtain failed | ⟨a, ha, failed⟩ := bind_eq_error_iff.1 failed
  · exact first failed
  · exact later a ha failed

theorem FailsIn.not_overflows (h : r.FailsIn categories) (never : .overflow ∉ categories) :
    ¬ r.Overflows := by
  rintro ⟨e, failed, overflow⟩
  exact never (overflow ▸ h failed)

theorem not_overflows_ok (a : α) : ¬ Overflows (.ok a) := by
  rintro ⟨e, ⟨⟩, -⟩

theorem overflows_error_iff : Overflows (.error e : Checked α) ↔ e.category = .overflow := by
  constructor
  · rintro ⟨e', ⟨⟩, overflow⟩
    exact overflow
  · exact fun overflow => ⟨e, rfl, overflow⟩

/-- A chain of checks overflows where its first check does, or in what follows if that succeeds. -/
theorem overflows_bind_iff :
    (r >>= f).Overflows ↔ r.Overflows ∨ ∃ a, r = .ok a ∧ (f a).Overflows := by
  simp only [Overflows, bind_eq_error_iff]
  constructor
  · rintro ⟨e, failed | ⟨a, ha, failed⟩, overflow⟩
    · exact .inl ⟨e, failed, overflow⟩
    · exact .inr ⟨a, ha, e, failed, overflow⟩
  · rintro (⟨e, failed, overflow⟩ | ⟨a, ha, e, failed, overflow⟩)
    · exact ⟨e, .inl failed, overflow⟩
    · exact ⟨e, .inr ⟨a, ha, failed⟩, overflow⟩

/-- What follows a check does not count for overflows if it never overflows. -/
theorem overflows_bind_of_not (never : ∀ a, r = .ok a → ¬ (f a).Overflows) :
    (r >>= f).Overflows ↔ r.Overflows := by
  rw [overflows_bind_iff]
  exact or_iff_left fun ⟨a, ha, overflow⟩ => never a ha overflow

theorem overflows_bind_iff_of {later : Prop}
    (same : ∀ a, r = .ok a → ((f a).Overflows ↔ later)) :
    (r >>= f).Overflows ↔ r.Overflows ∨ (∃ a, r = .ok a) ∧ later := by
  rw [overflows_bind_iff, exists_and_right.symm]
  exact or_congr_right (exists_congr fun a => and_congr_right (same a))

/-- What comes of a check of a number: a value or a complaint about it, or an overflow if the number
is too large. -/
inductive Reads (r : Checked α) (tooLarge : Prop) : Prop
  | value {a : α} (read : r = .ok a) (small : ¬ tooLarge)
  | complaint {e : Error} (refused : r = .error e) (category : e.category = .value)
      (small : ¬ tooLarge)
  | overflow {e : Error} (failed : r = .error e) (category : e.category = .overflow)
      (large : tooLarge)

theorem Reads.failsIn {tooLarge : Prop} (h : r.Reads tooLarge) :
    r.FailsIn [.value, .overflow] := by
  cases h with
  | @value a read small => exact read ▸ failsIn_ok a
  | complaint refused category small => exact refused ▸ failsIn_error (by simp [category])
  | overflow failed category large => exact failed ▸ failsIn_error (by simp [category])

theorem Reads.overflows_iff {tooLarge : Prop} (h : r.Reads tooLarge) :
    r.Overflows ↔ tooLarge := by
  cases h with
  | @value a read small => exact read ▸ iff_of_false (not_overflows_ok a) small
  | complaint refused category small =>
    rw [refused, overflows_error_iff, category]
    exact iff_of_false (by decide) small
  | overflow failed category large =>
    rw [failed, overflows_error_iff]
    exact iff_of_true category large

/-! ## Numbers -/

theorem ofInt_of_lt {n : Int} (small : n.natAbs < Double.integerBound) :
    ofInt n = .ok (Float.ofInt n) :=
  if_pos ((Double.isFinite_ofInt_iff n).2 small)

theorem ofInt_of_ge {n : Int} (large : Double.integerBound ≤ n.natAbs) :
    ofInt n = .error .integerTooLarge :=
  if_neg (mt (Double.isFinite_ofInt_iff n).1 large.not_gt)

end Checked

namespace Json

variable {v : Json}

/-- Whether a value is an integer that is too large for a double. -/
def IsOversized (v : Json) : Prop := ∃ n : Int, v = .int n ∧ Double.integerBound ≤ n.natAbs

/-- Whether a value is an infinite decimal. -/
def IsEndless (v : Json) : Prop :=
  ∃ x negative, v = .decimal x ∧ Binary64.ofFloat x = .infinite negative

theorem number?_of_isOversized (large : v.IsOversized) :
    v.number? = some (.error .integerTooLarge) := by
  obtain ⟨n, rfl, large⟩ := large
  exact congrArg some (Checked.ofInt_of_ge large)

theorem lt_of_not_isOversized {n : Int} (small : ¬ (Json.int n).IsOversized) :
    n.natAbs < Double.integerBound := by
  by_contra large
  exact small ⟨n, rfl, Nat.le_of_not_lt large⟩

/-- Only an integer that is too large is a number and not a double. -/
theorem number?_of_not_isOversized (small : ¬ v.IsOversized) :
    v.number? = none ∨ ∃ x, v.number? = some (.ok x) := by
  cases v with
  | bool b =>
    have fits : b.toInt.natAbs < Double.integerBound := by
      unfold Double.integerBound
      cases b <;> decide +kernel
    exact .inr ⟨_, congrArg some (Checked.ofInt_of_lt fits)⟩
  | int n => exact .inr ⟨_, congrArg some (Checked.ofInt_of_lt (lt_of_not_isOversized small))⟩
  | decimal x => exact .inr ⟨x, rfl⟩
  | null => exact .inl rfl
  | text t => exact .inl rfl
  | list items => exact .inl rfl
  | object entries => exact .inl rfl

end Json

end WaypointMap
