import WaypointMap.Console.Color

/-!
# Styles

How the text of a console is styled: by words for attributes and colours. Two ways to write a
style are the same if they give the same style.
-/

namespace WaypointMap

structure Style where
  /-- The attributes that are switched on or off, the last switch first. -/
  switches : List (Text × Bool) := []
  color : Option Text := none
  background : Option Text := none
  link : Option Text := none

namespace Style

/-- Why a text gives no style. -/
inductive Fault where
  /-- A word that means nothing where it stands. -/
  | badWord
  /-- A mixed colour without one of its parts. -/
  | missingPart
  deriving DecidableEq

/-- The attributes, in the order in which a style lists them. -/
def attributes : List Text :=
  ["bold", "dim", "italic", "underline", "blink", "blink2", "reverse", "conceal", "strike",
    "underline2", "frame", "encircle", "overline"].map Text.ofString

def shortWords : List (Text × Text) :=
  [("b", "bold"), ("c", "conceal"), ("d", "dim"), ("i", "italic"), ("o", "overline"),
    ("r", "reverse"), ("s", "strike"), ("u", "underline"), ("uu", "underline2")].map fun words =>
    (.ofString words.1, .ofString words.2)

def attribute? (word : Text) : Option Text :=
  if attributes.contains word then some word
  else (shortWords.find? (·.1 = word)).map Prod.snd

def readColor (word : Text) : Except Fault Text :=
  match Color.read word with
  | .color => .ok (Text.lower word)
  | .other => .error .badWord
  | .missingPart => .error .missingPart

/-- Adds what some words say to a style. -/
def addWords (style : Style) : List Text → Except Fault Style
  | [] => .ok style
  | word :: rest =>
    let small := Text.lower word
    if small = .ofString "on" then
      match rest with
      | [] => .error .badWord
      | word :: rest =>
        match readColor word with
        | .ok color => addWords { style with background := some color } rest
        | .error fault => .error fault
    else if small = .ofString "not" then
      match rest with
      | [] => .error .badWord
      | word :: rest =>
        match attribute? word with
        | some a => addWords { style with switches := (a, false) :: style.switches } rest
        | none => .error .badWord
    else if small = .ofString "link" then
      match rest with
      | [] => .error .badWord
      | word :: rest => addWords { style with link := some word } rest
    else
      match attribute? small with
      | some a => addWords { style with switches := (a, true) :: style.switches } rest
      | none =>
        match readColor small with
        | .ok color => addWords { style with color := some color } rest
        | .error fault => .error fault

def read (t : Text) : Except Fault Style :=
  if Text.trim t = .ofString "none" then .ok {} else addWords {} (Text.words t)

/-- The words for an attribute that is switched on or off. -/
def switchWords (style : Style) (a : Text) : List Text :=
  match style.switches.find? (·.1 = a) with
  | some (_, true) => [a]
  | some (_, false) => [.ofString "not", a]
  | none => []

/-- The words of a style, which are the same however it was written. -/
def words (style : Style) : List Text :=
  attributes.flatMap style.switchWords ++ style.color.toList ++
    (style.background.toList.flatMap fun color => [.ofString "on", color]) ++
    (style.link.toList.flatMap fun target => [.ofString "link", target])

def text (style : Style) : Text :=
  if style.words.isEmpty then .ofString "none" else [CodePoint.char ' '].intercalate style.words

/-- A text by the style that it gives, or in small letters if it gives none. -/
def normalize (t : Text) : Except Fault Text :=
  match read t with
  | .ok style => .ok style.text
  | .error .badWord => .ok (Text.lower (Text.trim t))
  | .error .missingPart => .error .missingPart

end Style

end WaypointMap
