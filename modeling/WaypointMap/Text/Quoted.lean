import WaypointMap.Text.Printable

/-!
# Quoted texts

How a text is shown inside a message: between quotes, with everything that is not
printable escaped, so that the result is an ordinary string.
-/

namespace WaypointMap

/-- The lowercase hexadecimal digits of a number, padded with zeros. -/
def hexadecimal (width n : Nat) : String :=
  String.ofList ((Nat.toDigits 16 n).leftpad width '0')

namespace CodePoint

/-- The escape of a code point by its number, as short as the number allows. -/
def numericEscape (n : Nat) : String :=
  if n ≤ 0xFF then "\\x" ++ hexadecimal 2 n
  else if n ≤ 0xFFFF then "\\u" ++ hexadecimal 4 n
  else "\\U" ++ hexadecimal 8 n

/-- A code point between quotes of one kind. -/
def quotedIn (quote : Char) (c : CodePoint) : String :=
  match c with
  | .surrogate _ => numericEscape c.value
  | .char k =>
    if k == quote || k == '\\' then String.ofList ['\\', k]
    else if k == '\n' then "\\n"
    else if k == '\r' then "\\r"
    else if k == '\t' then "\\t"
    else if c.isPrintable then String.singleton k
    else numericEscape c.value

end CodePoint

namespace Text

/-- Single quotes, unless the text holds a single quote and no double quote. -/
def quoteFor (t : Text) : Char :=
  if t.contains (.char '\'') && !t.contains (.char '"') then '"' else '\''

def quoted (t : Text) : String :=
  let quote := String.singleton t.quoteFor
  quote ++ String.join (t.map (CodePoint.quotedIn t.quoteFor)) ++ quote

end Text

end WaypointMap
