import AgentGateway.Text.Emoji
import AgentGateway.Text.Line
import AgentGateway.Text.Literal
import AgentGateway.Text.Quoted
import AgentGateway.Text.Style

/-! Text with tags.

A tag is a text between brackets that begins with a small letter, `#`, `/` or `@`; it is
not shown. A slash closes the tag of the style that it names, or the last one that is
open. A tag with `@` is an action: it has parameters, which have to be a value when the
tag is closed. Backslashes in front of a tag are shown half as many, and an odd one shows
the tag as text. What stands between tags is shown with its codes replaced by pictures.
Characters that move a terminal's cursor about are dropped. -/
namespace AgentGateway.Text

/-- Why a text with tags cannot be shown. -/
inductive MarkupFault where
  /-- A closing tag without the tag that it closes, by its position. -/
  | unmatched (tag : String) (position : Nat)
  | nothingOpen (position : Nat)
  /-- Parameters of an action of which some part is no value. -/
  | parameters (part whole : String) (f : Literal.Fault)
  /-- A colour without one of its parts. -/
  | emptyColourPart
deriving DecidableEq, Repr

namespace MarkupFault

def name : MarkupFault → String
  | emptyColourPart => "ValueError"
  | _ => "MarkupError"

def text : MarkupFault → String
  | unmatched tag n => s!"closing tag '[{tag}]' at position {n} doesn't match any open tag"
  | nothingOpen n => s!"closing tag '[/]' at position {n} has nothing to close"
  | parameters part whole f =>
    let what := match f with
      | .unreadable _ => s!"{quoted part} in {quoted whole}"
      | _ => quoted whole
    s!"error parsing {what}; {f.text}"
  | emptyColourPart => "invalid literal for int() with base 10: " ++ quoted ""

end MarkupFault

namespace Markup

/-! ### Pieces -/

def isTagStart (c : Char) : Bool :=
  ('a' ≤ c && c ≤ 'z') || c == '#' || c == '/' || c == '@'

/-- The inside of a tag whose opening bracket has been read, if it is one. -/
def tag? (s : List Char) : Option (List Char) :=
  match s with
  | c :: rest =>
    let inside := rest.takeWhile fun d => d != ']' && d != '['
    if isTagStart c && (rest.drop inside.length).head? == some ']' then some (c :: inside) else none
  | [] => none

inductive Piece where
  | plain (s : List Char)
  | tag (inside : List Char) (position : Nat)
deriving DecidableEq, Repr

/-- A text to be shown, where there is one. -/
def plainPiece (s : List Char) : List Piece := if s.isEmpty then [] else [.plain s]

/-- What backslashes with a tag behind them stand for. -/
def escaped (slashes : Nat) (inside : List Char) (position : Nat) : List Piece :=
  plainPiece (List.replicate (slashes / 2) '\\') ++
    if slashes % 2 = 1 then [.plain ('[' :: inside ++ [']'])]
    else [.tag inside (position + slashes)]

/-- Cut a text whose first code point stands at `position` into tags and what stands
between them, `before` being what has been read of a piece, the last character first. A
backslash in front of a bracket that begins no tag is left out. -/
def pieces (before : List Char) (position : Nat) (s : List Char) : List Piece :=
  match s with
  | [] => plainPiece before.reverse
  | c :: rest =>
    let slashes := ((c :: rest).takeWhile (· == '\\')).length
    match (c :: rest).drop slashes with
    | '[' :: inner =>
      match tag? inner with
      | some inside =>
        let taken := slashes + inside.length + 1
        plainPiece before.reverse ++ escaped slashes inside position ++
          pieces [] (position + size inside + slashes + 2) (rest.drop taken)
      | none => pieces (if slashes = 1 then before else c :: before) (position + 1) rest
    | _ => pieces (c :: before) (position + size [c]) rest
termination_by s.length
decreasing_by all_goals grind

/-! ### Tags -/

/-- A tag that is open: its name, what follows an equals sign, and the place where it was
opened in what is shown. -/
structure Tag where
  name : String
  parameters : Option String
  place : Nat
deriving DecidableEq, Repr

/-- What a tag that is closed at a place says, where that is of no use: a span of a style
whose colour lacks a part. -/
def Tag.blemish? (t : Tag) (place : Nat) : Option Span :=
  match t.name.toList, t.parameters with
  | '@' :: _, _ | _, none => none
  | name, some parameters => match Style.read (name ++ ' ' :: parameters.toList) with
    | .error .emptyPart => some ⟨t.place, place⟩
    | _ => none

/-- A tag's name, and its parameters behind an equals sign. -/
def parts (inside : List Char) : List Char × Option (List Char) :=
  let name := inside.takeWhile (· != '=')
  (name, (inside.drop name.length).tail?)

def normalName (s : List Char) : Except MarkupFault String :=
  (Style.normalName s).mapError fun _ => .emptyColourPart

/-- The value that parameters hold: what stands in the parentheses behind an action's name,
or all of it where there is no such name. -/
def argument (s : List Char) : List Char :=
  let rest := s.dropWhile fun c => isWordPart c || c == '_' || c == '.'
  match rest with
  | [] => ['(', ')']
  | '(' :: inner => if inner.getLast? = some ')' ∧ !inner.contains '\n' then rest else s
  | _ => s

/-- Whether a tag may be closed. -/
def checkClosed (t : Tag) : Except MarkupFault Unit :=
  match t.name.toList, t.parameters with
  | '@' :: _, some parameters =>
    if parameters.isEmpty then .ok ()
    else
      let part := argument (trimBy isBlankOrSeparator parameters.toList)
      (Literal.check part).mapError fun f => .parameters (String.ofList part) parameters f
  | _, _ => .ok ()

/-- The tag that is closed and those that stay open, the last one opened standing first. -/
def close (inside closing : List Char) (position : Nat) (opened : List Tag) :
    Except MarkupFault (Tag × List Tag) := do
  if (trimBy isBlankOrSeparator closing).isEmpty then
    match opened with
    | [] => throw (.nothingOpen position)
    | t :: more => do
      checkClosed t
      return (t, more)
  else
    let name ← normalName (trimBy isBlankOrSeparator closing)
    match opened.find? fun t => t.name == name with
    | none => throw (.unmatched (String.ofList inside) position)
    | some t => do
      checkClosed t
      return (t, opened.erase t)

def isDropped (c : Char) : Bool :=
  c == '\x07' || c == '\x08' || c == '\x0b' || c == '\x0c' || c == '\r'

/-- What is shown of a text without tags. -/
def visible (s : List Char) : List Char := (Emoji.replace s).filter fun c => !isDropped c

/-- What is shown from a place on, `opened` being the tags that are open. Its spans are those
of styles that are of no use. -/
def shown (place : Nat) (opened : List Tag) : List Piece → Except MarkupFault Line
  | [] => .ok ⟨[], opened.filterMap (·.blemish? place)⟩
  | .plain s :: rest => do
    let more ← shown (place + size (visible s)) opened rest
    return ⟨visible s ++ more.text, more.spans⟩
  | .tag inside position :: rest =>
    match parts inside with
    | ('/' :: closing, _) => do
      let (closed, left) ← close inside closing position opened
      let more ← shown place left rest
      return ⟨more.text, (closed.blemish? place).toList ++ more.spans⟩
    | (opening, parameters) => do
      shown place (⟨← normalName opening, parameters.map String.ofList, place⟩ :: opened) rest

end Markup

/-- A text as it is shown, without its tags. -/
def showMarkup (s : String) : Except MarkupFault Line :=
  Markup.shown 0 [] (Markup.pieces [] 0 s.toList)

end AgentGateway.Text
