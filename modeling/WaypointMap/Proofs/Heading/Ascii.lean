import WaypointMap.Proofs.Heading

/-!
# Headings in ASCII

A text in ASCII names a heading if it is one of eight words, with blanks around it and in any letter
case, and an integer does if it is one of the four numbers. All other texts in ASCII and all other
integers are refused as they were given.
-/

namespace WaypointMap

namespace CodePoint

/-- The numbers of the blanks in ASCII: tab to carriage return, the separators of files, groups,
records and units, and the space. -/
def asciiBlanks : List Nat := [9, 10, 11, 12, 13, 28, 29, 30, 31, 32]

theorem mem_asciiBlanks_iff {c : CodePoint} :
    c.value ∈ asciiBlanks ↔ c.value < 128 ∧ c.isBlank = true := by
  simp only [asciiBlanks, isBlank, isNarrowBlank, isSeparator, isWideBlank]
  generalize c.value = n
  simp only [List.mem_cons, List.not_mem_nil, or_false, Bool.or_eq_true, Bool.and_eq_true,
    beq_iff_eq, decide_eq_true_eq]
  omega

end CodePoint

namespace Text

/-- Whether a text is made of the first 128 code points. -/
def IsAscii (t : Text) : Prop := ∀ c ∈ t, c.value < 128

instance (t : Text) : Decidable t.IsAscii := inferInstanceAs (Decidable (∀ c ∈ t, c.value < 128))

theorem isAscii_append_iff {s t : Text} : (s ++ t).IsAscii ↔ s.IsAscii ∧ t.IsAscii :=
  List.forall_mem_append

theorem forall_mem_asciiBlanks_iff {t : Text} :
    (∀ c ∈ t, c.value ∈ CodePoint.asciiBlanks) ↔ t.IsAscii ∧ ∀ c ∈ t, c.isBlank = true := by
  simp only [CodePoint.mem_asciiBlanks_iff, IsAscii, forall₂_and]

end Text

namespace Heading

/-- The words for a heading. -/
def words : Heading → List String
  | north => ["n", "north"]
  | east => ["e", "east"]
  | south => ["s", "south"]
  | west => ["w", "west"]

/-- Whether a text is a word for a heading, letter case aside. -/
def IsWordFor (name : Text) (h : Heading) : Prop :=
  ∃ letters : List Char, name = letters.map .char ∧
    String.ofList (letters.map Char.toLower) ∈ h.words

/-- Whether a text is a word for a heading, letter case and the blanks around it aside. -/
def SpellsPlainly (t : Text) (h : Heading) : Prop :=
  ∃ before name after, t = before ++ name ++ after ∧
    (∀ c ∈ before, c.value ∈ CodePoint.asciiBlanks) ∧
    (∀ c ∈ after, c.value ∈ CodePoint.asciiBlanks) ∧ IsWordFor name h

/-! ## Small letters -/

theorem toNat_toLower (c : Char) :
    c.toLower.toNat = if 65 ≤ c.toNat ∧ c.toNat ≤ 90 then c.toNat + 32 else c.toNat := by
  unfold Char.toLower
  split
  · next capital =>
    have capital' : 65 ≤ c.toNat ∧ c.toNat ≤ 90 := capital
    have shifted : (c.val + ('a'.val - 'A'.val)).toNat = (c.toNat + 32) % 4294967296 :=
      UInt32.toNat_add ..
    rw [if_pos capital']
    exact shifted.trans (by omega)
  · next outside => exact (if_neg outside).symm

theorem toLower_eq_iff {c l : Char} (small : IsSmall l) :
    c.toLower = l ↔ c = l ∨ c = l.toUpper := by
  simp only [← Char.toNat_inj, toNat_toLower, toNat_toUpper, if_pos small]
  unfold IsSmall at small
  by_cases capital : 65 ≤ c.toNat ∧ c.toNat ≤ 90
  · rw [if_pos capital]
    omega
  · rw [if_neg capital]
    omega

theorem map_toLower_eq_singleton_iff {letters : List Char} {l : Char} (small : IsSmall l) :
    letters.map Char.toLower = [l] ↔ letters = [l] ∨ letters = [l.toUpper] := by
  rw [List.map_eq_singleton_iff]
  constructor
  · rintro ⟨c, rfl, lower⟩
    rcases (toLower_eq_iff small).1 lower with rfl | rfl
    · exact .inl rfl
    · exact .inr rfl
  · rintro (rfl | rfl)
    · exact ⟨l, rfl, (toLower_eq_iff small).2 (.inl rfl)⟩
    · exact ⟨l.toUpper, rfl, (toLower_eq_iff small).2 (.inr rfl)⟩

section Letters

variable {letters word : List Char} (small : ∀ l ∈ word, IsSmall l)

include small

theorem isAscii_of_toLower (same : letters.map Char.toLower = word) :
    Text.IsAscii (letters.map .char) := by
  subst same
  intro c hc
  obtain ⟨c, letter, rfl⟩ := List.mem_map.1 hc
  have smallC := small _ (List.mem_map_of_mem letter)
  exact lt_of_same smallC ((toLower_eq_iff smallC).1 rfl)

theorem isCaseOf_of_toLower (same : letters.map Char.toLower = word) :
    IsCaseOf (letters.map .char) word := by
  induction letters generalizing word with
  | nil =>
    subst same
    exact .nil
  | cons c rest ih =>
    subst same
    rw [List.map_cons, List.forall_mem_cons] at small
    exact .letter ((toLower_eq_iff small.1).1 rfl) (ih small.2 rfl)

/-- In ASCII the letters of a word are those that have its small letters. -/
theorem IsCaseOf.exists_letters {t : Text} (cased : IsCaseOf t word) (ascii : t.IsAscii) :
    ∃ letters : List Char, t = letters.map .char ∧ letters.map Char.toLower = word := by
  induction cased with
  | nil => exact ⟨[], rfl, rfl⟩
  | @letter c l t word same rest ih =>
    rw [List.forall_mem_cons] at small
    obtain ⟨letters, rfl, rfl⟩ := ih small.2 (List.forall_mem_cons.1 ascii).2
    have lower : c.toLower = l := (toLower_eq_iff small.1).2 same
    exact ⟨c :: letters, rfl, by rw [List.map_cons, lower]⟩
  -- The long s and the ligatures lie outside ASCII.
  | longS =>
    have plain := (List.forall_mem_cons.1 ascii).1
    exact absurd plain (by decide)
  | ligature joined =>
    have plain := (List.forall_mem_cons.1 ascii).1
    rcases joined with rfl | rfl
    · exact absurd plain (by decide)
    · exact absurd plain (by decide)

end Letters

/-! ## Words in ASCII -/

section Words

variable {name t : Text} {h : Heading}

theorem ofList_mem_words_iff {letters : List Char} :
    String.ofList letters ∈ h.words ↔
      letters = h.word.toList ∨ ∃ l, h.word.toList.head? = some l ∧ letters = [l] := by
  cases h <;> simp [words, word, ← String.toList_inj, or_comm]

/-- The words for a heading are its names in ASCII. -/
theorem isWordFor_iff : IsWordFor name h ↔ name.IsAscii ∧ IsNameOf name h := by
  constructor
  · rintro ⟨letters, rfl, listed⟩
    rcases ofList_mem_words_iff.1 listed with whole | ⟨l, first, single⟩
    · exact ⟨isAscii_of_toLower isSmall_of_mem_word whole,
        .inl (isCaseOf_of_toLower isSmall_of_mem_word whole)⟩
    · have small := isSmall_of_mem_word l (List.mem_of_mem_head? first)
      refine ⟨isAscii_of_toLower (List.forall_mem_singleton.2 small) single, .inr ⟨l, first, ?_⟩⟩
      exact ((map_toLower_eq_singleton_iff small).1 single).imp (congrArg _) (congrArg _)
  · rintro ⟨ascii, cased | ⟨l, first, same⟩⟩
    · obtain ⟨letters, rfl, lower⟩ := cased.exists_letters isSmall_of_mem_word ascii
      exact ⟨letters, rfl, ofList_mem_words_iff.2 (.inl lower)⟩
    · have small := isSmall_of_mem_word l (List.mem_of_mem_head? first)
      have listed {letters : List Char} (single : letters = [l] ∨ letters = [l.toUpper]) :
          String.ofList (letters.map Char.toLower) ∈ h.words :=
        ofList_mem_words_iff.2 (.inr ⟨l, first, (map_toLower_eq_singleton_iff small).2 single⟩)
      rcases same with rfl | rfl
      · exact ⟨[l], rfl, listed (.inl rfl)⟩
      · exact ⟨[l.toUpper], rfl, listed (.inr rfl)⟩

/-- The spellings in ASCII are the words with blanks around them. What other spellings there are
has a long s, a ligature of s and t or a blank outside ASCII. -/
theorem spellsPlainly_iff : SpellsPlainly t h ↔ t.IsAscii ∧ Spells t h := by
  constructor
  · rintro ⟨before, name, after, rfl, blank, blank', word⟩
    rw [Text.forall_mem_asciiBlanks_iff] at blank blank'
    rw [isWordFor_iff] at word
    refine ⟨?_, before, name, after, rfl, blank.2, blank'.2, word.2⟩
    rw [Text.isAscii_append_iff, Text.isAscii_append_iff]
    exact ⟨⟨blank.1, word.1⟩, blank'.1⟩
  · rintro ⟨ascii, before, name, after, rfl, blank, blank', named⟩
    rw [Text.isAscii_append_iff, Text.isAscii_append_iff] at ascii
    obtain ⟨⟨front, middle⟩, back⟩ := ascii
    exact ⟨before, name, after, rfl, Text.forall_mem_asciiBlanks_iff.2 ⟨front, blank⟩,
      Text.forall_mem_asciiBlanks_iff.2 ⟨back, blank'⟩, isWordFor_iff.2 ⟨middle, named⟩⟩

end Words

instance (t : Text) (h : Heading) : Decidable (SpellsPlainly t h) :=
  decidable_of_iff _ spellsPlainly_iff.symm

/-! ## Values -/

theorem exists_code_iff {n : Int} :
    (∃ h : Heading, n = h.code) ↔ n = 0 ∨ n = 1 ∨ n = 2 ∨ n = 3 := by
  constructor
  · rintro ⟨h, rfl⟩
    cases h <;> decide
  · rintro (rfl | rfl | rfl | rfl)
    · exact ⟨.north, rfl⟩
    · exact ⟨.east, rfl⟩
    · exact ⟨.south, rfl⟩
    · exact ⟨.west, rfl⟩

/-- Among the texts in ASCII, exactly the words for a heading name it, letter case and the blanks
around them aside, and among the integers exactly its number. All others are refused as they were
given. -/
theorem names_recognised {t : Text} (ascii : t.IsAscii) (n : Int) :
    (∀ h, ofJson (.text t) = .ok h ↔ SpellsPlainly t h) ∧
    (∀ e, ofJson (.text t) = .error e ↔
      (∀ h, ¬ SpellsPlainly t h) ∧ e = .unknownHeading (.text t)) ∧
    (∀ h, ofJson (.int n) = .ok h ↔ n = h.code) ∧
    ((∃ h, ofJson (.int n) = .ok h) ↔ n = 0 ∨ n = 1 ∨ n = 2 ∨ n = 3) ∧
    ∀ e, ofJson (.int n) = .error e ↔
      (∀ h : Heading, n ≠ h.code) ∧ e = .unknownHeading (.int n) := by
  have text (h : Heading) : ofJson (.text t) = .ok h ↔ SpellsPlainly t h := by
    rw [ofJson_text_eq_ok_iff, spellsPlainly_iff, and_iff_right ascii]
  refine ⟨text, fun e => ?_, fun _ => ofJson_int_eq_ok_iff, ?_, fun e => ?_⟩
  · simp only [ofJson_eq_error_iff, ne_eq, text]
  · simp only [ofJson_int_eq_ok_iff, exists_code_iff]
  · simp only [ofJson_eq_error_iff, ne_eq, ofJson_int_eq_ok_iff]

/-- A separator and a vertical tab are blanks around a word; a blank inside one is not left out. -/
theorem names_recognised_separators :
    Text.IsAscii (.ofString "\x1c nOrTh\x0b") ∧
      ofJson (.text (.ofString "\x1c nOrTh\x0b")) = .ok .north ∧
      Text.IsAscii (.ofString "no rth") ∧
      ofJson (.text (.ofString "no rth")) =
        .error (.unknownHeading (.text (.ofString "no rth"))) ∧
      ofJson (.int 3) = .ok .west ∧ ofJson (.int (-1)) = .error (.unknownHeading (.int (-1))) := by
  have padded : Text.IsAscii (.ofString "\x1c nOrTh\x0b") := by decide
  have parted : Text.IsAscii (.ofString "no rth") := by decide
  obtain ⟨accepted, -, number, -⟩ := names_recognised padded 3
  obtain ⟨-, refused, -, -, unnumbered⟩ := names_recognised parted (-1)
  exact ⟨padded, (accepted .north).2 (by decide), parted,
    (refused _).2 ⟨fun h => by cases h <;> decide, rfl⟩, (number .west).2 rfl,
    (unnumbered _).2 ⟨fun h => by cases h <;> decide, rfl⟩⟩

end Heading

end WaypointMap
