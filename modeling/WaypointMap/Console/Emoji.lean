import WaypointMap.Console.Emoji.Table
import WaypointMap.Console.Width
import WaypointMap.Text.Blank
import WaypointMap.Text.Case

/-!
# Emoji

A name between two colons stands for an emoji, in any letter case. The name may end in a
word for a variant: `-text` for a plain sign, `-emoji` for a coloured one. A name that is not
known stays as it is, together with its colons.
-/

namespace WaypointMap

namespace Emoji

/-- The digits of a hexadecimal number in small letters, as a number. -/
def hexadecimal (digits : Text) : Nat :=
  digits.foldl (fun n c =>
    n * 16 + (if c.value < 'a'.toNat then c.value - '0'.toNat else c.value - 'a'.toNat + 10)) 0

/-- An emoji from its code points as the table writes them. -/
def ofCodes (codes : Text) : Text :=
  (codes.splitOn (.char '-')).map fun digits => .ofNat (hexadecimal digits)

/-- The emoji in whose row of the table a name stands. -/
def inTable? (entry : Text) : Option Text :=
  ((Text.ofString table).splitOn (.char ';')).findSome? fun row =>
    match Text.words row with
    | codes :: names => if names.contains entry then some (ofCodes codes) else none
    | [] => none

/-- The mark after the names to which a skin tone can be added; it is part of no name. -/
def toneMark : CodePoint := .char '~'

/-- What is added to a name for a skin tone, and the code point of the tone. -/
def tones : List (Text × CodePoint) :=
  [("_light_skin_tone", 0x1F3FB), ("_medium-light_skin_tone", 0x1F3FC),
    ("_medium_skin_tone", 0x1F3FD), ("_medium-dark_skin_tone", 0x1F3FE),
    ("_dark_skin_tone", 0x1F3FF)].map fun tone => (.ofString tone.1, .ofNat tone.2)

/-- An emoji in a skin tone, which stands after the first code point and asks for colour
itself. -/
def withTone (tone : CodePoint) : Text → Text
  | [] => []
  | c :: rest =>
    c :: tone :: if rest.head? == some CodePoint.emojiSelector then rest.drop 1 else rest

/-- The emoji of a name with a skin tone. -/
def ofTonedName? (name : Text) : Option Text :=
  tones.findSome? fun (suffix, tone) =>
    if suffix.isSuffixOf name then
      (inTable? (name.take (name.length - suffix.length) ++ [toneMark])).map (withTone tone)
    else none

/-- The emoji of a name in small letters. -/
def ofName? (name : Text) : Option Text :=
  if name.contains toneMark then none
  else inTable? name <|> inTable? (name ++ [toneMark]) <|> ofTonedName? name

/-- The words for variants, and what they add to an emoji. -/
def variants : List (Text × CodePoint) :=
  [(.ofString "-text", .textSelector), (.ofString "-emoji", .emojiSelector)]

/-- What stands between two colons as an emoji. -/
def ofCode? (code : Text) : Option Text :=
  match variants.find? fun variant => variant.1.isSuffixOf code with
  | some (suffix, selector) =>
    (ofName? (Text.lower (code.take (code.length - suffix.length)))).map (· ++ [selector])
  | none => ofName? (Text.lower code)

/-- The text between a colon, which is behind, and the next one, if there is no blank before
that. -/
def code? (t : Text) : Option Text :=
  let code := t.takeWhile fun c => c != .char ':' && !c.isBlank
  if (t.drop code.length).head? == some (.char ':') then some code else none

/-- Puts emoji in the places of their names. -/
def replace (t : Text) : Text :=
  match t with
  | [] => []
  | .char ':' :: rest =>
    match code? rest with
    | some code =>
      (ofCode? code).getD (.char ':' :: code ++ [.char ':']) ++
        replace (rest.drop (code.length + 1))
    | none => .char ':' :: replace rest
  | c :: rest => c :: replace rest
termination_by t.length
decreasing_by all_goals simp only [List.length_drop, List.length_cons]; omega

end Emoji

end WaypointMap
