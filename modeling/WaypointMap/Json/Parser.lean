import WaypointMap.Json
import WaypointMap.Number.Numeral

/-!
# Reading JSON

A reader in one pass that stops at the first fault. Besides standard JSON it takes the
words for infinities and not a number. Lists and objects are read up to a limited depth.
Each step returns a rest that is shorter than what it was given, which is why reading ends.
-/

namespace WaypointMap

namespace Json

/-- What is wrong at a place of a JSON text. -/
inductive Fault where
  | value | propertyName | colon | comma | extraData
  | unterminated | controlCharacter | escape | unicodeEscape | byteOrderMark
  deriving DecidableEq

def Fault.message : Fault → String
  | value => "Expecting value"
  | propertyName => "Expecting property name enclosed in double quotes"
  | colon => "Expecting ':' delimiter"
  | comma => "Expecting ',' delimiter"
  | extraData => "Extra data"
  | unterminated => "Unterminated string starting at"
  | controlCharacter => "Invalid control character at"
  | escape => "Invalid \\escape"
  | unicodeEscape => "Invalid \\uXXXX escape"
  | byteOrderMark => "Unexpected UTF-8 BOM (decode using utf-8-sig)"

/-- A place in a text: line and column count from one, the offset from zero. -/
structure Position where
  line : Nat
  column : Nat
  offset : Nat
  deriving DecidableEq

/-- The place at which a rest of a text begins. Only line feeds end lines. -/
def Position.ofRest (whole rest : Text) : Position :=
  let offset := whole.length - rest.length
  let seen := whole.take offset
  { line := (seen.filter (· == .char '\n')).length + 1
    column := (seen.reverse.takeWhile (· != .char '\n')).length + 1
    offset }

/-- What can hold other values. -/
inductive Container where
  | list | object
  deriving DecidableEq

def Container.word : Container → String
  | list => "array"
  | object => "object"

/-- How many containers may lie inside each other. -/
def nestingLimit : Nat := 990

/-- Why a text is not read. -/
inductive ReadError where
  | malformed (fault : Fault) (place : Position)
  | tooManyDigits (count : Nat)
  /-- A container inside as many others as the limit allows. -/
  | tooDeep (container : Container)
  deriving DecidableEq

namespace Parser

/-- Why a step stops; a fault comes with the text from its place on. -/
inductive Failure where
  | malformed (fault : Fault) (rest : Text)
  | tooManyDigits (count : Nat)
  | tooDeep (container : Container)

/-- What a step reads off the front of a text. -/
structure Step (α : Type) (t : Text) where
  value : α
  rest : Text
  shorter : rest.length < t.length

/-- Tab, line feed, carriage return and space. -/
def isBlank : CodePoint → Bool
  | .char c => c == ' ' || c == '\t' || c == '\n' || c == '\r'
  | .surrogate _ => false

def skip (t : Text) : Text := t.dropWhile isBlank

theorem length_skip_le (t : Text) : (skip t).length ≤ t.length :=
  (List.dropWhile_suffix isBlank).length_le

/-- What follows the first code point that is not blank is shorter than the whole. -/
theorem length_lt_of_skip {t after : Text} {c : CodePoint} (h : skip t = c :: after) :
    after.length < t.length := by
  have le := length_skip_le t
  rw [h, List.length_cons] at le
  exact le

def hexDigit? : CodePoint → Option Nat
  | .char c =>
    if c.isDigit then some (c.toNat - '0'.toNat)
    else if 'a' ≤ c && c ≤ 'f' then some (c.toNat - 'a'.toNat + 10)
    else if 'A' ≤ c && c ≤ 'F' then some (c.toNat - 'A'.toNat + 10)
    else none
  | .surrogate _ => none

def hexQuad? (a b c d : CodePoint) : Option Nat := do
  let a ← hexDigit? a
  let b ← hexDigit? b
  let c ← hexDigit? c
  let d ← hexDigit? d
  return ((a * 16 + b) * 16 + c) * 16 + d

/-- The code point of two surrogates, if they are a high and a low one. -/
def joinSurrogates? (high low : Nat) : Option Nat :=
  if 0xD800 ≤ high && high < 0xDC00 && 0xDC00 ≤ low && low < 0xE000 then
    some (0x10000 + (high - 0xD800) * 0x400 + (low - 0xDC00))
  else none

/-- The code point that an escaped number and the text after it form together, if the number
is a high surrogate and another escape with something behind it follows. -/
def joined? (n : Nat) (after : Text) : Except Failure (Option Nat) :=
  match after with
  | .char '\\' :: .char 'u' :: a :: b :: c :: d :: _ :: _ =>
    if 0xD800 ≤ n && n < 0xDC00 then
      match hexQuad? a b c d with
      | none => .error (.malformed .unicodeEscape (after.drop 1))
      | some low => .ok (joinSurrogates? n low)
    else .ok none
  | _ => .ok none

/-- Reads what follows `\u`; at least one code point must follow the four digits. -/
def unicodeEscape (t : Text) : Except Failure (Step CodePoint t) :=
  match t with
  | a :: b :: c :: d :: next :: more =>
    match hexQuad? a b c d with
    | none => .error (.malformed .unicodeEscape (.char 'u' :: t))
    | some n =>
      match joined? n (next :: more) with
      | .error e => .error e
      | .ok none => .ok ⟨.ofNat n, next :: more, by simp only [List.length_cons]; omega⟩
      | .ok (some both) => .ok ⟨.ofNat both, (next :: more).drop 6, by
          simp only [List.length_drop, List.length_cons]; omega⟩
  | _ => .error (.malformed .unicodeEscape (.char 'u' :: t))

/-- The code point that a one-letter escape stands for. -/
def letterEscape? : CodePoint → Option CodePoint
  | .char '"' => some (.char '"')
  | .char '\\' => some (.char '\\')
  | .char '/' => some (.char '/')
  | .char 'b' => some (.char '\x08')
  | .char 'f' => some (.char '\x0c')
  | .char 'n' => some (.char '\n')
  | .char 'r' => some (.char '\r')
  | .char 't' => some (.char '\t')
  | _ => none

/-- Reads a string whose opening quote is behind; `opened` is the text from that quote on,
and `read` what was read so far, last first. -/
def string (opened read t : Text) : Except Failure (Step Text t) :=
  match t with
  | [] => .error (.malformed .unterminated opened)
  | .char '"' :: rest => .ok ⟨read.reverse, rest, by simp only [List.length_cons]; omega⟩
  | .char '\\' :: [] => .error (.malformed .unterminated opened)
  | .char '\\' :: .char 'u' :: rest =>
    match unicodeEscape rest with
    | .error e => .error e
    | .ok escaped =>
      match string opened (escaped.value :: read) escaped.rest with
      | .error e => .error e
      | .ok s => .ok ⟨s.value, s.rest, by
          have := escaped.shorter; have := s.shorter; simp only [List.length_cons]; omega⟩
  | .char '\\' :: c :: rest =>
    match letterEscape? c with
    | none => .error (.malformed .escape t)
    | some escaped =>
      match string opened (escaped :: read) rest with
      | .error e => .error e
      | .ok s => .ok ⟨s.value, s.rest, by
          have := s.shorter; simp only [List.length_cons]; omega⟩
  | c :: rest =>
    if c.value ≤ 0x1F then .error (.malformed .controlCharacter t)
    else
      match string opened (c :: read) rest with
      | .error e => .error e
      | .ok s => .ok ⟨s.value, s.rest, by
          have := s.shorter; simp only [List.length_cons]; omega⟩
termination_by t.length
decreasing_by
  · have := escaped.shorter; simp only [List.length_cons]; omega
  · simp only [List.length_cons]; omega
  · simp only [List.length_cons]; omega

/-- How many code points the parts of a number take. -/
structure NumberShape where
  sign : Nat
  whole : Nat
  fraction : Nat
  exponent : Nat

/-- How many digits a text begins with. -/
def digitCount (t : Text) : Nat := (t.takeWhile (·.asciiDigit?.isSome)).length

/-- The whole part: a zero alone, or digits that do not begin with zero. -/
def wholeSize : Text → Nat
  | .char '0' :: _ => 1
  | t => digitCount t

/-- The fraction: a point and at least one digit, or nothing. -/
def fractionSize : Text → Nat
  | .char '.' :: rest => if digitCount rest == 0 then 0 else digitCount rest + 1
  | _ => 0

/-- A sign, or nothing. -/
def signSize : Text → Nat
  | .char '+' :: _ => 1
  | .char '-' :: _ => 1
  | _ => 0

/-- The exponent: its mark, an optional sign and at least one digit, or nothing. -/
def exponentSize : Text → Nat
  | .char c :: rest =>
    let digits := digitCount (rest.drop (signSize rest))
    if (c == 'e' || c == 'E') && digits != 0 then signSize rest + digits + 1 else 0
  | _ => 0

/-- The shape of the number that a text begins with, if it begins with one. -/
def numberShape? (t : Text) : Option NumberShape :=
  let sign := match t with
    | .char '-' :: _ => 1
    | _ => 0
  let t := t.drop sign
  let whole := wholeSize t
  let fraction := fractionSize (t.drop whole)
  let exponent := exponentSize (t.drop (whole + fraction))
  if whole == 0 then none else some ⟨sign, whole, fraction, exponent⟩

def NumberShape.size (s : NumberShape) : Nat := s.sign + s.whole + s.fraction + s.exponent

/-- The values of the digits in a part of a number. -/
def digitsOf (t : Text) : List Nat := t.filterMap CodePoint.asciiDigit?

/-- The number of a shape. Without fraction and exponent it is an integer. -/
def numberOf (s : NumberShape) (t : Text) : Except Failure Json :=
  let whole := digitsOf ((t.drop s.sign).take s.whole)
  let fraction := digitsOf ((t.drop (s.sign + s.whole)).take s.fraction)
  let exponent := (t.drop (s.sign + s.whole + s.fraction)).take s.exponent
  let negative := s.sign == 1
  if s.fraction == 0 && s.exponent == 0 then
    if integerDigitLimit < s.whole then .error (.tooManyDigits s.whole)
    else
      let n : Int := Numeral.positional whole
      .ok (.int (if negative then -n else n))
  else
    let power : Int := Numeral.positional (digitsOf exponent)
    let power := if exponent.contains (.char '-') then -power else power
    .ok (.decimal (Decimal.toFloat negative
      ⟨Numeral.positional (whole ++ fraction), power - fraction.length⟩))

def words : List (String × Json) :=
  [("null", .null), ("true", .bool true), ("false", .bool false), ("NaN", .decimal (0.0 / 0.0)),
    ("Infinity", .decimal (1.0 / 0.0)), ("-Infinity", .decimal (-1.0 / 0.0))]

def word? (t : Text) : Option (String × Json) :=
  words.find? fun w => (Text.ofString w.1).isPrefixOf t

/-- Reads a word or a number at the front of `c :: t`. -/
def scalar (c : CodePoint) (t : Text) : Except Failure (Step Json (c :: t)) :=
  match word? (c :: t) with
  | some (word, v) => .ok ⟨v, t.drop (word.length - 1), by
      simp only [List.length_drop, List.length_cons]; omega⟩
  | none =>
    match numberShape? (c :: t) with
    | none => .error (.malformed .value (c :: t))
    | some shape =>
      match numberOf shape (c :: t) with
      | .error e => .error e
      | .ok v => .ok ⟨v, t.drop (shape.size - 1), by
          simp only [List.length_drop, List.length_cons]; omega⟩

mutual

/-- Reads a value in which at most `depth` containers lie inside each other. -/
def value (depth : Nat) (t : Text) : Except Failure (Step Json t) :=
  match t, depth with
  | [], _ => .error (.malformed .value [])
  | .char '"' :: rest, _ =>
    match string (.char '"' :: rest) [] rest with
    | .error e => .error e
    | .ok s => .ok ⟨.text s.value, s.rest, by
        have := s.shorter; simp only [List.length_cons]; omega⟩
  | .char '[' :: _, 0 => .error (.tooDeep .list)
  | .char '[' :: rest, depth + 1 =>
    have := length_skip_le rest
    match h : skip rest with
    | .char ']' :: after => .ok ⟨.list [], after, by
        have := length_lt_of_skip h; simp only [List.length_cons]; omega⟩
    | _ =>
      match items depth [] (skip rest) with
      | .error e => .error e
      | .ok s => .ok ⟨.list s.value, s.rest, by
          have := s.shorter; simp only [List.length_cons]; omega⟩
  | .char '\x7b' :: _, 0 => .error (.tooDeep .object)
  | .char '\x7b' :: rest, depth + 1 =>
    have := length_skip_le rest
    match h : skip rest with
    | .char '\x7d' :: after => .ok ⟨.object [], after, by
        have := length_lt_of_skip h; simp only [List.length_cons]; omega⟩
    | _ =>
      match entries depth [] (skip rest) with
      | .error e => .error e
      | .ok s => .ok ⟨.object s.value, s.rest, by
          have := s.shorter; simp only [List.length_cons]; omega⟩
  | c :: rest, _ => scalar c rest
termination_by (t.length, 0)
decreasing_by all_goals exact Prod.Lex.left _ _ (by simp only [List.length_cons]; omega)

/-- Reads the items of a list up to its end; `read` holds the earlier items, last first. -/
def items (depth : Nat) (read : List Json) (t : Text) :
    Except Failure (Step (List Json) t) :=
  match value depth t with
  | .error e => .error e
  | .ok v =>
    have := v.shorter
    match h : skip v.rest with
    | .char ']' :: after => .ok ⟨(v.value :: read).reverse, after, by
        have := length_lt_of_skip h; omega⟩
    | .char ',' :: after =>
      have := length_skip_le after
      have := length_lt_of_skip h
      match items depth (v.value :: read) (skip after) with
      | .error e => .error e
      | .ok s => .ok ⟨s.value, s.rest, by have := s.shorter; omega⟩
    | rest => .error (.malformed .comma rest)
termination_by (t.length, 1)
decreasing_by
  · exact Prod.Lex.right _ Nat.zero_lt_one
  · exact Prod.Lex.left _ _ (by omega)

/-- Reads the entries of an object up to its end; `read` holds the earlier entries. -/
def entries (depth : Nat) (read : List (Text × Json)) (t : Text) :
    Except Failure (Step (List (Text × Json)) t) :=
  match t with
  | .char '"' :: rest =>
    match string (.char '"' :: rest) [] rest with
    | .error e => .error e
    | .ok key =>
      have := key.shorter
      match h : skip key.rest with
      | .char ':' :: afterColon =>
        have := length_lt_of_skip h
        have := length_skip_le afterColon
        match value depth (skip afterColon) with
        | .error e => .error e
        | .ok v =>
          have := v.shorter
          match h' : skip v.rest with
          | .char '\x7d' :: after => .ok ⟨put key.value v.value read, after, by
              have := length_lt_of_skip h'; simp only [List.length_cons]; omega⟩
          | .char ',' :: after =>
            have := length_skip_le after
            have := length_lt_of_skip h'
            match entries depth (put key.value v.value read) (skip after) with
            | .error e => .error e
            | .ok s => .ok ⟨s.value, s.rest, by
                have := s.shorter; simp only [List.length_cons]; omega⟩
          | rest => .error (.malformed .comma rest)
      | rest => .error (.malformed .colon rest)
  | rest => .error (.malformed .propertyName rest)
termination_by (t.length, 1)
decreasing_by all_goals exact Prod.Lex.left _ _ (by simp only [List.length_cons]; omega)

end

def whole (t : Text) : Except Failure Json :=
  if t.head? == some (.char '\uFEFF') then .error (.malformed .byteOrderMark t)
  else
    match value nestingLimit (skip t) with
    | .error e => .error e
    | .ok s =>
      match skip s.rest with
      | [] => .ok s.value
      | rest => .error (.malformed .extraData rest)

end Parser

def parse (t : Text) : Except ReadError Json :=
  match Parser.whole t with
  | .ok v => .ok v
  | .error (.malformed fault rest) => .error (.malformed fault (.ofRest t rest))
  | .error (.tooManyDigits count) => .error (.tooManyDigits count)
  | .error (.tooDeep container) => .error (.tooDeep container)

def ReadError.message : ReadError → String
  | malformed fault place =>
    s!"{fault.message}: line {place.line} column {place.column} (char {place.offset})"
  | tooManyDigits count =>
    s!"Exceeds the limit ({integerDigitLimit} digits) for integer string conversion: " ++
      s!"value has {count} digits; use sys.set_int_max_str_digits() to increase the limit"
  | tooDeep container =>
    s!"maximum recursion depth exceeded while decoding a JSON {container.word} " ++
      "from a unicode string"

end Json

end WaypointMap
