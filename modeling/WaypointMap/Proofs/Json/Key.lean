import Mathlib.Data.List.Basic
import Mathlib.Data.List.Lex
import Mathlib.Data.Set.List
import WaypointMap.Json.Key

/-!
# Keys in order

Texts are ordered by their code points, and two texts are the same key only if they are equal. So
the distinct ones among some texts can be sorted, each before the next.
-/

namespace WaypointMap

namespace CodePoint

/-- A character is no surrogate. -/
theorem value_ne (c : Char) (k : Fin 2048) : (char c).value ≠ (surrogate k).value := by
  have valid : c.toNat < 0xD800 ∨ 0xDFFF < c.toNat ∧ c.toNat < 0x110000 := c.valid
  have bound := k.isLt
  change c.toNat ≠ 0xD800 + k.val
  omega

theorem value_injective : Function.Injective value := by
  intro c d same
  cases c with
  | char c =>
    cases d with
    | char d => exact congrArg char (Char.toNat_inj.1 same)
    | surrogate k => exact absurd same (value_ne c k)
  | surrogate j =>
    cases d with
    | char d => exact absurd same.symm (value_ne d j)
    | surrogate k => exact congrArg surrogate (Fin.ext (Nat.add_left_cancel same))

end CodePoint

namespace Text

variable {s t u : Text}

/-- Texts are ordered as the lists of the numbers of their code points. -/
theorem before_iff : s.before t = true ↔ s.map CodePoint.value < t.map CodePoint.value := by
  fun_induction before s t with
  | case1 s => simp
  | case2 b t => simp
  | case3 a s b t ih =>
    simp only [Bool.or_eq_true, decide_eq_true_eq, Bool.and_eq_true, beq_iff_eq, ih, List.map_cons,
      List.cons_lt_cons_iff, CodePoint.value_injective.eq_iff]

theorem not_before_iff : s.before t = false ↔ t.map CodePoint.value ≤ s.map CodePoint.value := by
  rw [← Bool.not_eq_true, before_iff, not_lt]

theorem before_irrefl (t : Text) : t.before t = false := by
  rw [not_before_iff]

theorem eq_or_before (s t : Text) : s = t ∨ s.before t = true ∨ t.before s = true := by
  rw [before_iff, before_iff]
  rcases lt_trichotomy (s.map CodePoint.value) (t.map CodePoint.value) with less | same | more
  · exact .inr (.inl less)
  · exact .inl (List.map_injective_iff.2 CodePoint.value_injective same)
  · exact .inr (.inr more)

/-- Distinct texts in sorted order are one before the next. -/
theorem pairwise_before_mergeSort {texts : List Text} (distinct : texts.Nodup) :
    (texts.mergeSort fun s t => !t.before s).Pairwise fun s t => s.before t = true := by
  have sorted : (texts.mergeSort fun s t => !t.before s).Pairwise
      fun s t => (!t.before s) = true := by
    apply List.pairwise_mergeSort
    · intro s t u
      simp only [Bool.not_eq_true', not_before_iff]
      exact le_trans
    · intro s t
      simp only [Bool.or_eq_true, Bool.not_eq_true', not_before_iff]
      exact le_total _ _
  have different : (texts.mergeSort fun s t => !t.before s).Nodup :=
    (List.mergeSort_perm texts _).nodup_iff.2 distinct
  refine sorted.imp₂ (fun s t later different => ?_) different
  rw [Bool.not_eq_true'] at later
  obtain same | before | before := eq_or_before s t
  · exact absurd same different
  · exact before
  · exact absurd before (by simp [later])

end Text

namespace Json

/-! ## Distinct keys -/

/-- Some keys without repetitions, after keys that were seen before. -/
def unseen (seen keys : List Json) : List Json :=
  keys.foldl (fun seen key => if seen.any (sameKey key) then seen else seen ++ [key]) seen

theorem distinctKeys_eq (keys : List Json) : distinctKeys keys = unseen [] keys := rfl

theorem unseen_cons (seen : List Json) (key : Json) (rest : List Json) :
    unseen seen (key :: rest) =
      unseen (if seen.any (sameKey key) then seen else seen ++ [key]) rest := rfl

theorem prefix_unseen (seen keys : List Json) : seen <+: unseen seen keys := by
  induction keys generalizing seen with
  | nil => exact List.prefix_rfl
  | cons key rest ih =>
    rw [unseen_cons]
    refine List.IsPrefix.trans ?_ (ih _)
    split
    · exact List.prefix_rfl
    · exact List.prefix_append seen [key]

theorem mem_of_mem_unseen {seen keys : List Json} {key : Json} (h : key ∈ unseen seen keys) :
    key ∈ seen ∨ key ∈ keys := by
  induction keys generalizing seen with
  | nil => exact .inl h
  | cons first rest ih =>
    rw [unseen_cons] at h
    obtain before | later := ih h
    · split at before
      · exact .inl before
      · obtain before | rfl := List.mem_append.1 before |>.imp_right List.mem_singleton.1
        · exact .inl before
        · exact .inr List.mem_cons_self
    · exact .inr (List.mem_cons_of_mem _ later)

theorem mem_of_mem_distinctKeys {keys : List Json} {key : Json} (h : key ∈ distinctKeys keys) :
    key ∈ keys :=
  (mem_of_mem_unseen h).resolve_left List.not_mem_nil

/-- No key is lost, but for one that is the same as another. -/
theorem mem_unseen_or (seen : List Json) {keys : List Json} {key : Json} (h : key ∈ keys) :
    key ∈ unseen seen keys ∨ ∃ other ∈ unseen seen keys, sameKey key other = true := by
  induction keys generalizing seen with
  | nil => cases h
  | cons first rest ih =>
    rw [unseen_cons]
    cases h with
    | tail _ later => exact ih _ later
    | head =>
      have kept := prefix_unseen (if seen.any (sameKey key) then seen else seen ++ [key]) rest
      split at kept
      · next found =>
        obtain ⟨other, hother, same⟩ := List.any_eq_true.1 found
        rw [if_pos found]
        exact .inr ⟨other, kept.subset hother, same⟩
      · next fresh =>
        rw [if_neg fresh]
        exact .inl (kept.subset (by simp))

/-- No two keys are the same. -/
theorem pairwise_unseen {seen : List Json} (keys : List Json)
    (distinct : seen.Pairwise fun key key' => sameKey key' key = false) :
    (unseen seen keys).Pairwise fun key key' => sameKey key' key = false := by
  induction keys generalizing seen with
  | nil => exact distinct
  | cons first rest ih =>
    rw [unseen_cons]
    apply ih
    split
    · exact distinct
    · next fresh =>
      have different : ∀ key ∈ seen, sameKey first key = false := by simpa using fresh
      exact List.pairwise_append.2 ⟨distinct, List.pairwise_singleton _ _, by simpa using different⟩

theorem distinctKeys_ne_nil {keys : List Json} (any : keys ≠ []) : distinctKeys keys ≠ [] := by
  obtain ⟨key, rest, rfl⟩ := List.exists_cons_of_ne_nil any
  rw [distinctKeys_eq, unseen_cons]
  exact List.IsPrefix.ne_nil (prefix_unseen [key] rest) (List.cons_ne_nil key [])

/-- Texts have an order. -/
theorem unorderable?_of_texts {keys : List Json} (texts : ∀ key ∈ keys, ∃ t, key = .text t) :
    unorderable? keys = none := by
  fun_induction unorderable? keys with
  | case1 a b rest ordered ih => exact ih fun key hkey => texts key (List.mem_cons_of_mem _ hkey)
  | case2 a b rest unordered =>
    obtain ⟨s, rfl⟩ := texts a (by simp)
    obtain ⟨t, rfl⟩ := texts b (by simp)
    exact absurd rfl unordered
  | case3 keys short => rfl

/-! ## Texts as keys -/

theorem sameKey_text_iff {s t : Text} : sameKey (.text s) (.text t) = true ↔ s = t := by
  have parts : sameKey (.text s) (.text t) = (!s.before t && !t.before s) := rfl
  rw [parts, Bool.and_eq_true, Bool.not_eq_true', Bool.not_eq_true']
  constructor
  · intro same
    obtain equal | before | before := Text.eq_or_before s t
    · exact equal
    · exact absurd (same.1.symm.trans before) Bool.false_ne_true
    · exact absurd (same.2.symm.trans before) Bool.false_ne_true
  · rintro rfl
    exact ⟨s.before_irrefl, s.before_irrefl⟩

theorem exists_distinctKeys_of_texts {keys : List Json} (texts : ∀ key ∈ keys, ∃ t, key = .text t) :
    ∃ distinct : List Text, distinctKeys keys = distinct.map .text ∧ distinct.Nodup ∧
      ∀ t, t ∈ distinct ↔ .text t ∈ keys := by
  have range : distinctKeys keys ∈ Set.range (List.map text) := by
    rw [Set.range_list_map]
    intro key hkey
    obtain ⟨t, rfl⟩ := texts key (mem_of_mem_distinctKeys hkey)
    exact ⟨t, rfl⟩
  obtain ⟨distinct, parts⟩ := range
  refine ⟨distinct, parts.symm, ?_, fun t => ?_⟩
  · have different := pairwise_unseen keys .nil
    rw [← distinctKeys_eq, ← parts, List.pairwise_map] at different
    refine different.imp fun other same => ?_
    exact Bool.false_ne_true (other.symm.trans (sameKey_text_iff.2 same.symm))
  · rw [← List.mem_map_of_injective fun s t => text.inj, parts]
    constructor
    · exact mem_of_mem_distinctKeys
    · intro hkey
      obtain kept | ⟨other, hother, same⟩ := mem_unseen_or [] hkey
      · exact kept
      · obtain ⟨s, rfl⟩ := texts other (mem_of_mem_distinctKeys hother)
        rwa [sameKey_text_iff.1 same]

/-- The distinct ones among some texts in sorted order. -/
theorem exists_sortedKeys_of_texts {keys : List Json} (texts : ∀ key ∈ keys, ∃ t, key = .text t) :
    ∃ sorted : List Text, sortedKeys (distinctKeys keys) = sorted.map .text ∧
      sorted.Pairwise (fun s t => s.before t = true) ∧ ∀ t, t ∈ sorted ↔ .text t ∈ keys := by
  obtain ⟨distinct, parts, nodup, mem⟩ := exists_distinctKeys_of_texts texts
  refine ⟨distinct.mergeSort fun s t => !t.before s, ?_, Text.pairwise_before_mergeSort nodup, ?_⟩
  · have order : ∀ s ∈ distinct, ∀ t ∈ distinct,
        (!t.before s) = !keyBefore (.text t) (.text s) := fun _ _ _ _ => rfl
    rw [parts, sortedKeys]
    exact (List.map_mergeSort order).symm
  · intro t
    rw [List.mem_mergeSort, mem]

end Json

end WaypointMap
