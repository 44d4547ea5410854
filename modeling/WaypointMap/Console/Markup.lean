import WaypointMap.Console.Style

/-!
# Markup

Tags in brackets that style the text of a console. They do not show: what is left of a
marked-up text is its plain parts. A closing tag has to have an open one. A tag is kept as text
if an odd number of backslashes comes before it; two backslashes before a tag show as one.
Tags that mean nothing are passed over, but mixed colours have to be complete.
-/

namespace WaypointMap

namespace Markup

/-- A tag: what stands between the brackets, split at the first equals sign. -/
structure Tag where
  name : Text
  parameters : Option Text
  deriving DecidableEq

def Tag.ofText (t : Text) : Tag :=
  let name := t.takeWhile (· != .char '=')
  match t.drop name.length with
  | [] => ⟨name, none⟩
  | _ :: parameters => ⟨name, some parameters⟩

def Tag.written (tag : Tag) : Text :=
  let parameters := match tag.parameters with
    | some parameters => .char '=' :: parameters
    | none => []
  .char '[' :: tag.name ++ parameters ++ [.char ']']

/-- What is wrong with a tag, and where it stands. -/
inductive Problem where
  /-- A closing tag, and no tag of its name is open. -/
  | unmatched (tag : Tag) (position : Nat)
  /-- A closing tag, and no tag is open. -/
  | nothingToClose (position : Nat)
  /-- A mixed colour without one of its parts. -/
  | missingPart
  deriving DecidableEq

def Problem.message : Problem → String
  | unmatched tag position =>
    s!"closing tag '{tag.written.toString}' at position {position} doesn't match any open tag"
  | nothingToClose position => s!"closing tag '[/]' at position {position} has nothing to close"
  | missingPart => "invalid literal for int() with base 10: ''"

/-- A piece of a marked-up text. -/
inductive Piece where
  | plain (t : Text)
  | tag (tag : Tag) (position : Nat)

/-- A tag at the front of a text, with the backslashes before it. -/
structure Bracket where
  slashes : Nat
  inner : Text

def Bracket.size (b : Bracket) : Nat := b.slashes + b.inner.length + 2

/-- Whether a tag can begin with a code point. -/
def isOpening : CodePoint → Bool
  | .char c => ('a' ≤ c && c ≤ 'z') || c == '#' || c == '/' || c == '@'
  | .surrogate _ => false

/-- The tag that a text begins with. No bracket opens inside of a tag. -/
def Bracket.ofText? (t : Text) : Option Bracket :=
  let slashes := t.takeWhile (· == .char '\\')
  match t.drop slashes.length with
  | .char '[' :: c :: rest =>
    let more := rest.takeWhile fun d => d != .char '[' && d != .char ']'
    if isOpening c && (rest.drop more.length).head? == some (.char ']') then
      some ⟨slashes.length, c :: more⟩
    else none
  | _ => none

/-- The pieces of a bracket that stands at a position. -/
def Bracket.pieces (b : Bracket) (position : Nat) : List Piece :=
  .plain (List.replicate (b.slashes / 2) (.char '\\')) ::
    if b.slashes % 2 == 1 then [.plain (.char '[' :: b.inner ++ [.char ']'])]
    else [.tag (.ofText b.inner) (position + b.slashes)]

/-- The pieces of a text that stands at a position; `plain` is the plain text before it, last
first. -/
def pieces (position : Nat) (plain t : Text) : List Piece :=
  match t with
  | [] => [.plain plain.reverse]
  | c :: rest =>
    match Bracket.ofText? (c :: rest) with
    | some b =>
      .plain plain.reverse :: b.pieces position ++
        pieces (position + b.size) [] (rest.drop (b.size - 1))
    | none => pieces (position + 1) (c :: plain) rest
termination_by t.length
decreasing_by all_goals simp only [List.length_drop, List.length_cons]; omega

/-- A plain piece as it shows: a backslash before a bracket does not. -/
def unescape : Text → Text
  | [] => []
  | .char '\\' :: .char '[' :: rest => .char '[' :: unescape rest
  | c :: rest => c :: unescape rest

/-- The style that a tag names, so that a closing tag can be compared with it. -/
def styleName (t : Text) : Except Problem Text :=
  match Style.normalize t with
  | .ok name => .ok name
  | .error _ => .error .missingPart

def Tag.normalize (tag : Tag) : Except Problem Tag := do
  return { tag with name := ← styleName tag.name }

def Tag.style (tag : Tag) : Text :=
  match tag.parameters with
  | some parameters => tag.name ++ .char ' ' :: parameters
  | none => tag.name

/-- What a marked-up text consists of: plain parts, and tags that style them. -/
structure Content where
  parts : List Text := []
  tags : List Tag := []

/-- The content of some pieces; `opened` are the open tags, last first. -/
def contentOf (opened : List Tag) : List Piece → Except Problem Content
  | [] => .ok { tags := opened }
  | .plain t :: rest => do
    let content ← contentOf opened rest
    return { content with parts := unescape t :: content.parts }
  | .tag tag position :: rest =>
    match tag.name with
    | .char '/' :: name => do
      let closed ←
        if (Text.trim name).isEmpty then
          match opened.head? with
          | some closed => pure closed
          | none => throw (.nothingToClose position)
        else
          let name ← styleName name
          match opened.find? (·.name = name) with
          | some closed => pure closed
          | none => throw (.unmatched tag position)
      let content ← contentOf (opened.erase closed) rest
      return { content with tags := closed :: content.tags }
    | _ => do
      let tag ← tag.normalize
      contentOf (tag :: opened) rest

/-- Whether the style of a tag lacks a part of a colour. -/
def Tag.lacksPart (tag : Tag) : Bool :=
  match Style.read tag.style with
  | .error .missingPart => true
  | _ => false

def parts (t : Text) : Except Problem (List Text) := do
  let content ← contentOf [] (pieces 0 [] t)
  if content.tags.any (·.lacksPart) then throw .missingPart
  return content.parts

end Markup

end WaypointMap
