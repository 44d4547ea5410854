import Mathlib.Data.List.Basic
import WaypointMap.Heading

/-!
# Spellings of headings

A heading may be spelled in full or by its first letter, with small letters and capitals as one
likes, and with blanks around it. These spellings name the heading, and no other text names any.
-/

namespace WaypointMap

namespace Text

variable {before name after : Text}

theorem dropWhile_isBlank_append (blank : ∀ c ∈ before, c.isBlank = true)
    (solid : ∀ c ∈ name, c.isBlank = false) (any : name ≠ []) :
    (before ++ name ++ after).dropWhile CodePoint.isBlank = name ++ after := by
  obtain ⟨c, rest, rfl⟩ := List.exists_cons_of_ne_nil any
  have stop : ¬ c.isBlank = true := Bool.eq_false_iff.1 (solid c List.mem_cons_self)
  rw [List.append_assoc, List.dropWhile_append_of_pos blank, List.cons_append]
  exact List.dropWhile_cons_of_neg stop

/-- Blanks around a text without blanks are trimmed. -/
theorem trim_append (blank : ∀ c ∈ before, c.isBlank = true)
    (blank' : ∀ c ∈ after, c.isBlank = true) (solid : ∀ c ∈ name, c.isBlank = false)
    (any : name ≠ []) : (before ++ name ++ after).trim = name := by
  have front : (before ++ name ++ after).dropWhile CodePoint.isBlank = name ++ after :=
    dropWhile_isBlank_append blank solid any
  have back : (after.reverse ++ name.reverse ++ []).dropWhile CodePoint.isBlank =
      name.reverse ++ [] :=
    dropWhile_isBlank_append (by simpa using blank') (by simpa using solid) (by simpa using any)
  rw [List.append_nil, List.append_nil] at back
  rw [trim, trimWith, front, List.reverse_append, back, List.reverse_reverse]

theorem exists_dropWhile (t : Text) :
    ∃ before, t = before ++ t.dropWhile CodePoint.isBlank ∧ ∀ c ∈ before, c.isBlank = true :=
  ⟨_, List.takeWhile_append_dropWhile.symm, List.all_eq_true.1 List.all_takeWhile⟩

/-- A text is its trimmed text with blanks around it. -/
theorem exists_trim (t : Text) :
    ∃ before after, t = before ++ t.trim ++ after ∧ (∀ c ∈ before, c.isBlank = true) ∧
      ∀ c ∈ after, c.isBlank = true := by
  obtain ⟨before, front, blank⟩ := exists_dropWhile t
  obtain ⟨after, back, blank'⟩ := exists_dropWhile (t.dropWhile CodePoint.isBlank).reverse
  refine ⟨before, after.reverse, ?_, blank, by simpa using blank'⟩
  calc
    t = before ++ t.dropWhile CodePoint.isBlank := front
    _ = before ++ (t.dropWhile CodePoint.isBlank).reverse.reverse := by rw [List.reverse_reverse]
    _ = before ++ (t.trim ++ after.reverse) := by rw [back, List.reverse_append]; rfl
    _ = before ++ t.trim ++ after.reverse := (List.append_assoc ..).symm

end Text

namespace Heading

/-! ## Letter case -/

/-- Whether a text is a word of small letters in some letter case. The long s and the ligatures of
s and t are small letters of their own. -/
inductive IsCaseOf : Text → List Char → Prop
  | nil : IsCaseOf [] []
  | letter {c l : Char} {t : Text} {word : List Char} (same : c = l ∨ c = l.toUpper)
      (rest : IsCaseOf t word) : IsCaseOf (.char c :: t) (l :: word)
  | longS {t : Text} {word : List Char} (rest : IsCaseOf t word) :
      IsCaseOf (.char 'ſ' :: t) ('s' :: word)
  | ligature {c : Char} {t : Text} {word : List Char} (joined : c = 'ﬅ' ∨ c = 'ﬆ')
      (rest : IsCaseOf t word) : IsCaseOf (.char c :: t) ('s' :: 't' :: word)

/-- A small letter from a to z. -/
def IsSmall (l : Char) : Prop := 97 ≤ l.toNat ∧ l.toNat ≤ 122

instance (l : Char) : Decidable (IsSmall l) := inferInstanceAs (Decidable (_ ∧ _))

theorem toNat_toUpper (c : Char) :
    c.toUpper.toNat = if IsSmall c then c.toNat - 32 else c.toNat := by
  unfold Char.toUpper
  split
  · next small =>
    have small' : IsSmall c := small
    -- The shift to the capitals is negative and wraps around.
    have shifted : (c.val + ('A'.val - 'a'.val)).toNat = (c.toNat + 4294967264) % 4294967296 :=
      UInt32.toNat_add ..
    rw [if_pos small']
    unfold IsSmall at small'
    exact shifted.trans (by omega)
  · next outside => exact (if_neg outside).symm

theorem toUpper_eq_toUpper_iff {c l : Char} (small : IsSmall l) :
    c.toUpper = l.toUpper ↔ c = l ∨ c = l.toUpper := by
  simp only [← Char.toNat_inj, toNat_toUpper, if_pos small]
  by_cases small' : IsSmall c
  · rw [if_pos small']
    unfold IsSmall at small small'
    omega
  · rw [if_neg small']
    unfold IsSmall at small small'
    omega

theorem eq_of_toUpper_eq {l l' : Char} (small : IsSmall l) (small' : IsSmall l')
    (same : l.toUpper = l'.toUpper) : l = l' := by
  refine ((toUpper_eq_toUpper_iff small').1 same).resolve_right fun capital => ?_
  have shifted := toNat_toUpper l'
  rw [if_pos small', ← capital] at shifted
  unfold IsSmall at small small'
  omega

/-- Small letters and their capitals are among the first 128 code points. -/
theorem lt_of_same {c l : Char} (small : IsSmall l) (same : c = l ∨ c = l.toUpper) :
    c.toNat < 128 := by
  have capital := toNat_toUpper l
  rw [if_pos small] at capital
  unfold IsSmall at small
  rcases same with rfl | rfl
  · omega
  · omega

theorem capitals_of_lt {c : Char} (plain : c.toNat < 128) :
    capitals (.char c) = [.char c.toUpper] := by
  unfold capitals
  split
  next same => cases same; exact absurd plain (by decide)
  next same => cases same; exact absurd plain (by decide)
  next same => cases same; exact absurd plain (by decide)
  next same => cases same; rfl
  next other => exact absurd rfl (other c)

/-- Letter case is lost in capitals. -/
theorem IsCaseOf.flatMap_capitals {t : Text} {word : List Char} (cased : IsCaseOf t word)
    (small : ∀ l ∈ word, IsSmall l) :
    t.flatMap capitals = word.map fun l => .char l.toUpper := by
  induction cased with
  | nil => rfl
  | @letter c l t word same rest ih =>
    rw [List.forall_mem_cons] at small
    have plain := lt_of_same small.1 same
    rw [List.flatMap_cons, capitals_of_lt plain, ih small.2,
      (toUpper_eq_toUpper_iff small.1).2 same]
    rfl
  | longS rest ih =>
    rw [List.forall_mem_cons] at small
    exact congrArg (CodePoint.char 'S' :: ·) (ih small.2)
  | ligature joined rest ih =>
    rw [List.forall_mem_cons, List.forall_mem_cons] at small
    rcases joined with rfl | rfl
    · exact congrArg (fun t => .char 'S' :: .char 'T' :: t) (ih small.2.2)
    · exact congrArg (fun t => .char 'S' :: .char 'T' :: t) (ih small.2.2)

/-- The first letter of a word, if the capitals of the word begin with a certain one. -/
theorem exists_of_cons_eq_map {c : Char} {t : Text} {word : List Char}
    (small : ∀ l ∈ word, IsSmall l)
    (same : .char c :: t = word.map fun l => CodePoint.char l.toUpper) :
    ∃ l rest, word = l :: rest ∧ IsSmall l ∧ l.toUpper = c ∧ (∀ l ∈ rest, IsSmall l) ∧
      t = rest.map fun l => .char l.toUpper := by
  obtain ⟨l, rest, rfl, first, same⟩ := List.map_eq_cons_iff.1 same.symm
  rw [List.forall_mem_cons] at small
  exact ⟨l, rest, rfl, small.1, CodePoint.char.inj first, small.2, same.symm⟩

/-- The induction is on the text, where a ligature uses up two letters of the word. -/
theorem isCaseOf_of_flatMap_capitals {t : Text} {word : List Char}
    (small : ∀ l ∈ word, IsSmall l)
    (same : t.flatMap capitals = word.map fun l => .char l.toUpper) : IsCaseOf t word := by
  induction t generalizing word with
  | nil =>
    obtain rfl : word = [] := List.map_eq_nil_iff.1 same.symm
    exact .nil
  | cons c rest ih =>
    have ligature {c : Char} (joined : c = 'ﬅ' ∨ c = 'ﬆ')
        (same : .char 'S' :: .char 'T' :: rest.flatMap capitals =
          word.map fun l => .char l.toUpper) : IsCaseOf (.char c :: rest) word := by
      obtain ⟨l, word', rfl, smallS, first, small', same'⟩ := exists_of_cons_eq_map small same
      obtain ⟨l', word, rfl, smallT, second, small'', same''⟩ :=
        exists_of_cons_eq_map small' same'
      obtain rfl : l = 's' := eq_of_toUpper_eq smallS (by decide) first
      obtain rfl : l' = 't' := eq_of_toUpper_eq smallT (by decide) second
      exact .ligature joined (ih small'' same'')
    rw [List.flatMap_cons] at same
    revert same
    fun_cases capitals c with
    | case1 =>
      intro same
      obtain ⟨l, word', rfl, smallS, first, small', same'⟩ := exists_of_cons_eq_map small same
      obtain rfl : l = 's' := eq_of_toUpper_eq smallS (by decide) first
      exact .longS (ih small' same')
    | case2 => exact ligature (.inl rfl)
    | case3 => exact ligature (.inr rfl)
    | case4 c =>
      intro same
      obtain ⟨l, word', rfl, smallL, first, small', same'⟩ := exists_of_cons_eq_map small same
      exact .letter ((toUpper_eq_toUpper_iff smallL).1 first.symm) (ih small' same')
    | case5 c _ _ _ other =>
      intro same
      obtain ⟨l, _, -, first, -⟩ := List.map_eq_cons_iff.1 same.symm
      exact (other _ first.symm).elim

/-! ## Names -/

/-- Whether a text is the name of a heading or its first letter, in any letter case. -/
def IsNameOf (name : Text) (h : Heading) : Prop :=
  IsCaseOf name h.word.toList ∨
    ∃ l, h.word.toList.head? = some l ∧ (name = [.char l] ∨ name = [.char l.toUpper])

/-- Whether a text is the name of a heading or its first letter, with blanks around it. -/
def Spells (t : Text) (h : Heading) : Prop :=
  ∃ before name after, t = before ++ name ++ after ∧ (∀ c ∈ before, c.isBlank = true) ∧
    (∀ c ∈ after, c.isBlank = true) ∧ IsNameOf name h

theorem isSmall_of_mem_word {h : Heading} : ∀ l ∈ h.word.toList, IsSmall l := by
  cases h <;> simp [word, IsSmall]

section Names

variable {name : Text} {h : Heading}

theorem flatMap_capitals_eq_name_iff :
    name.flatMap capitals = Text.ofString h.name ↔ IsCaseOf name h.word.toList := by
  have capital : Text.ofString h.name = h.word.toList.map fun l => .char l.toUpper := by
    cases h <;> decide
  rw [capital]
  exact ⟨isCaseOf_of_flatMap_capitals isSmall_of_mem_word,
    fun cased => cased.flatMap_capitals isSmall_of_mem_word⟩

theorem head?_name_eq_some_iff {c : Char} :
    h.name.toList.head? = some c.toUpper ↔
      ∃ l, h.word.toList.head? = some l ∧ (c = l ∨ c = l.toUpper) := by
  have capital : h.name.toList.head? = h.word.toList.head?.map Char.toUpper := by
    cases h <;> decide
  rw [capital, Option.map_eq_some_iff]
  refine exists_congr fun l => and_congr_right fun first => ?_
  rw [eq_comm, toUpper_eq_toUpper_iff (isSmall_of_mem_word l (List.mem_of_mem_head? first))]

theorem isNameOf_iff :
    IsNameOf name h ↔ name.flatMap capitals = Text.ofString h.name ∨
      ∃ c : Char, name = [.char c] ∧ h.name.toList.head? = some c.toUpper := by
  simp only [IsNameOf, flatMap_capitals_eq_name_iff, head?_name_eq_some_iff]
  refine or_congr_right ?_
  constructor
  · rintro ⟨l, first, rfl | rfl⟩
    · exact ⟨l, rfl, l, first, .inl rfl⟩
    · exact ⟨l.toUpper, rfl, l, first, .inr rfl⟩
  · rintro ⟨c, rfl, l, first, rfl | rfl⟩
    · exact ⟨c, first, .inl rfl⟩
    · exact ⟨l, first, .inr rfl⟩

end Names

/-! ## Blanks around names -/

/-- Blanks are no small letters. -/
theorem lt_of_isBlank {c : CodePoint} (blank : c.isBlank = true) :
    c.value < 97 ∨ 122 < c.value := by
  simp only [CodePoint.isBlank, CodePoint.isNarrowBlank, CodePoint.isSeparator,
    CodePoint.isWideBlank] at blank
  generalize c.value = n at blank
  simp only [Bool.or_eq_true, Bool.and_eq_true, beq_iff_eq, decide_eq_true_eq] at blank
  omega

theorem toUpper_of_isBlank {c : Char} (blank : (CodePoint.char c).isBlank = true) :
    c.toUpper = c := by
  have large : c.toNat < 97 ∨ 122 < c.toNat := lt_of_isBlank blank
  have outside : ¬ (97 ≤ c.toNat ∧ c.toNat ≤ 122) := by omega
  exact dif_neg outside

/-- A blank stays one in capitals. -/
theorem capitals_of_isBlank {c : CodePoint} (blank : c.isBlank = true) : capitals c = [c] := by
  unfold capitals
  split
  next => exact absurd blank (by decide)
  next => exact absurd blank (by decide)
  next => exact absurd blank (by decide)
  next c _ _ _ => rw [toUpper_of_isBlank blank]
  next => rfl

theorem isBlank_name (h : Heading) : ∀ c ∈ Text.ofString h.name, c.isBlank = false := by
  cases h <;> decide

section Names

variable {name : Text} {h : Heading}

theorem IsNameOf.not_isBlank (named : IsNameOf name h) : ∀ c ∈ name, c.isBlank = false := by
  intro c hc
  by_contra blank
  rw [Bool.not_eq_false] at blank
  have solid : c ∈ Text.ofString h.name → False := fun hc =>
    Bool.false_ne_true ((isBlank_name h c hc).symm.trans blank)
  rcases isNameOf_iff.1 named with whole | ⟨d, rfl, first⟩
  · apply solid
    rw [← whole]
    exact List.mem_flatMap.2 ⟨c, hc, by rw [capitals_of_isBlank blank]; exact List.mem_cons_self⟩
  · obtain rfl := List.mem_singleton.1 hc
    rw [toUpper_of_isBlank blank] at first
    exact solid (List.mem_map_of_mem (List.mem_of_mem_head? first))

theorem IsNameOf.ne_nil (named : IsNameOf name h) : name ≠ [] := by
  rintro rfl
  rcases isNameOf_iff.1 named with whole | ⟨d, ⟨⟩, -⟩
  cases h <;> exact absurd whole (by decide)

/-! ## Reading names -/

theorem find?_all_eq_some_iff {p : Heading → Bool}
    (unique : ∀ h k, p h = true → p k = true → h = k) :
    all.find? p = some h ↔ p h = true := by
  refine ⟨List.find?_some, fun holds => ?_⟩
  have any : (all.find? p).isSome := List.find?_isSome.2 ⟨h, by cases h <;> decide, holds⟩
  obtain ⟨k, found⟩ := Option.isSome_iff_exists.1 any
  rw [found, unique h k holds (List.find?_some found)]

theorem head?_name_injective : (fun h : Heading => h.name.toList.head?).Injective := by
  intro h k same
  cases h <;> cases k <;> first | rfl | exact absurd same (by decide)

theorem ofString_name_injective : (fun h : Heading => Text.ofString h.name).Injective := by
  intro h k same
  cases h <;> cases k <;> first | rfl | exact absurd same (by decide)

theorem ofLetter?_eq_some_iff :
    ofLetter? name = some h ↔
      ∃ c : Char, name = [.char c] ∧ h.name.toList.head? = some c.toUpper := by
  unfold ofLetter?
  split
  · next c =>
    rw [find?_all_eq_some_iff]
    · simp
    · intro h k first first'
      exact head?_name_injective ((beq_iff_eq.1 first).trans (beq_iff_eq.1 first').symm)
  · next other =>
    refine iff_of_false nofun ?_
    rintro ⟨c, rfl, -⟩
    exact other c rfl

theorem length_capitals_le (c : CodePoint) : (capitals c).length ≤ 2 := by
  unfold capitals
  split <;> simp

/-- A name in full is longer than a letter. -/
theorem ofLetter?_of_whole (whole : name.flatMap capitals = Text.ofString h.name) :
    ofLetter? name = none := by
  by_contra letter
  obtain ⟨k, letter⟩ := Option.ne_none_iff_exists'.1 letter
  obtain ⟨c, rfl, -⟩ := ofLetter?_eq_some_iff.1 letter
  have short : (Text.ofString h.name).length ≤ 2 := by
    rw [← whole, List.flatMap_singleton]
    exact length_capitals_le (.char c)
  cases h <;> exact absurd short (by decide)

theorem ofText?_eq_some_iff_isNameOf {t : Text} : ofText? t = some h ↔ IsNameOf t.trim h := by
  rw [isNameOf_iff, ← ofLetter?_eq_some_iff]
  unfold ofText?
  dsimp only
  cases letter : ofLetter? t.trim with
  | some k =>
    refine ⟨.inr, ?_⟩
    rintro (whole | same)
    · cases letter.symm.trans (ofLetter?_of_whole whole)
    · exact same
  | none =>
    rw [find?_all_eq_some_iff]
    · simp
    · intro h k whole whole'
      exact ofString_name_injective ((beq_iff_eq.1 whole).symm.trans (beq_iff_eq.1 whole'))

/-- A text names a heading if it spells it. -/
theorem ofText?_eq_some_iff {t : Text} : ofText? t = some h ↔ Spells t h := by
  rw [ofText?_eq_some_iff_isNameOf]
  constructor
  · intro named
    obtain ⟨before, after, parts, blank, blank'⟩ := t.exists_trim
    exact ⟨before, t.trim, after, parts, blank, blank', named⟩
  · rintro ⟨before, name, after, rfl, blank, blank', named⟩
    rw [Text.trim_append blank blank' named.not_isBlank named.ne_nil]
    exact named

instance (t : Text) (h : Heading) : Decidable (Spells t h) :=
  decidable_of_iff _ ofText?_eq_some_iff

example : Spells (.ofString " nOrTh ") .north ∧ ¬ Spells (.ofString "no rth") .north := by decide

theorem ofText?_eq_none_iff {t : Text} : ofText? t = none ↔ ∀ h, ¬ Spells t h := by
  simp only [← ofText?_eq_some_iff, Option.eq_none_iff_forall_ne_some, ne_eq]

theorem ofText?_ne_none_iff {t : Text} : ofText? t ≠ none ↔ ∃ h, Spells t h := by
  simp only [← ofText?_eq_some_iff, Option.ne_none_iff_exists']

/-! ## Values -/

theorem code_injective : code.Injective := by
  intro h k same
  cases h <;> cases k <;> first | rfl | exact absurd same (by decide)

theorem ofInt?_eq_some_iff {n : Int} : ofInt? n = some h ↔ n = h.code := by
  unfold ofInt?
  rw [find?_all_eq_some_iff]
  · exact beq_iff_eq
  · intro h k numbered numbered'
    rw [beq_iff_eq] at numbered numbered'
    exact code_injective (Int.ofNat_inj.1 (numbered.symm.trans numbered'))

section Values

variable {v : Json}

theorem ofJson_eq_ok_iff : ofJson v = .ok h ↔ ofJson? v = some h := by
  unfold ofJson
  split
  · next named => rw [named, Except.ok.injEq, Option.some_inj]
  · next unknown => rw [unknown]; exact iff_of_false nofun nofun

/-- A value that names no heading is refused as it was given. -/
theorem ofJson_eq_error_iff {e : Error} :
    ofJson v = .error e ↔ (∀ h, ofJson v ≠ .ok h) ∧ e = .unknownHeading v := by
  simp only [ne_eq, ofJson_eq_ok_iff, ← Option.eq_none_iff_forall_ne_some]
  unfold ofJson
  split
  · next named => rw [named]; exact iff_of_false nofun nofun
  · next unknown => rw [unknown, Except.error.injEq, eq_comm]; exact (and_iff_right rfl).symm

end Values

theorem ofJson_text_eq_ok_iff {t : Text} : ofJson (.text t) = .ok h ↔ Spells t h :=
  ofJson_eq_ok_iff.trans ofText?_eq_some_iff

theorem ofJson_int_eq_ok_iff {n : Int} : ofJson (.int n) = .ok h ↔ n = h.code :=
  ofJson_eq_ok_iff.trans ofInt?_eq_some_iff

theorem ofJson_text_of_some {t : Text} (named : ofText? t = some h) : ofJson (.text t) = .ok h :=
  ofJson_eq_ok_iff.2 named

theorem ofJson_text_of_none {t : Text} (unknown : ofText? t = none) :
    ofJson (.text t) = .error (.unknownHeading (.text t)) := by
  simp only [ofJson, ofJson?, unknown]

end Names

end Heading

end WaypointMap
