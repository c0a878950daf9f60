import AgentGateway.Text.FieldLayout
import AgentGateway.Text.Reflection

/-! Templates of texts.

A template holds fields between braces; a doubled brace stands for one. A field is
the name of a value, an optional conversion after `!` and an optional layout after
`:`. A name may be followed by names behind points and by places in brackets, which lead
from the value to what it tells about itself and to its characters. A field without a name,
or with a number for one, asks for a value by position, of which there are none. Fields may stand inside a layout, but no deeper.

A template is cut into pieces first, up to the first mistake in its form; then the
pieces are filled in from left to right, so that the leftmost mistake is reported. -/
namespace AgentGateway.Text

/-- What can be wrong with a template. -/
inductive TemplateFault where
  | unknownField (name : String)
  | positional (n : Nat)
  | lonelyBrace (brace : Char)
  | braceInName
  | unclosedField
  | unclosedLayout
  | noConversion
  | unknownConversion (code : Nat)
  | noColon
  | tooDeep
  | layout (f : LayoutFault)
  | emptyPart
  | unclosedPlace
  | noPart
  | part (f : ReflectionFault)
deriving DecidableEq, Repr

namespace TemplateFault

def name : TemplateFault → String
  | unknownField _ => "KeyError"
  | positional _ => "IndexError"
  | part f => f.name
  | layout f => f.name
  | _ => "ValueError"

def text : TemplateFault → String
  | unknownField n => quoted n
  | positional n => s!"Replacement index {n} out of range for positional args tuple"
  | lonelyBrace c => s!"Single '{c}' encountered in format string"
  | braceInName => "unexpected '\x7b' in field name"
  | unclosedField => "expected '\x7d' before end of string"
  | unclosedLayout => "unmatched '\x7b' in format spec"
  | noConversion => "end of string while looking for conversion specifier"
  | unknownConversion c => s!"Unknown conversion specifier {LayoutFault.shownCode c 126}"
  | noColon => "expected ':' after conversion specifier"
  | tooDeep => "Max string recursion exceeded"
  | layout f => f.text
  | emptyPart => "Empty attribute in format string"
  | unclosedPlace => "Missing ']' in format string"
  | noPart => "Only '.' or '[' may follow ']' in format field specifier"
  | part f => f.text

end TemplateFault

namespace Template

/-! ### Pieces -/

structure Field where
  name : List Char
  /-- The code point of a conversion. -/
  conversion : Option Nat
  layout : List Char
deriving DecidableEq, Repr

inductive Piece where
  | literal (c : Char)
  | field (f : Field)
  /-- A mistake in the form of the template, which ends it. -/
  | broken (f : TemplateFault)
deriving DecidableEq, Repr

/-- The length of a field's name up to its end. Between brackets every character
belongs to the name. -/
def nameLength (bracketed : Bool) : List Char → Except TemplateFault Nat
  | [] => .error .unclosedField
  | c :: rest =>
    if bracketed then (nameLength (c != ']') rest).map (· + 1)
    else if c = '\x7b' then .error .braceInName
    else if c = '\x7d' ∨ c = ':' ∨ c = '!' then .ok 0
    else (nameLength (c == '[') rest).map (· + 1)

/-- The length of a layout up to the brace that closes it, inner braces being paired. -/
def layoutLength (opened : Nat) : List Char → Except TemplateFault Nat
  | [] => .error .unclosedLayout
  | c :: rest =>
    if c = '\x7b' then (layoutLength (opened + 1) rest).map (· + 1)
    else if c = '\x7d' then
      if opened = 0 then .ok 0 else (layoutLength (opened - 1) rest).map (· + 1)
    else (layoutLength opened rest).map (· + 1)

/-- The field behind an opening brace, with the number of characters that it takes. -/
def field (s : List Char) : Except TemplateFault (Field × Nat) := do
  let n ← nameLength false s
  let withLayout (conversion : Option Nat) (rest : List Char) := do
    let k ← layoutLength 0 rest
    return (⟨s.take n, conversion, rest.take k⟩, s.length - (rest.drop (k + 1)).length)
  match s.drop n with
  | ':' :: rest => withLayout none rest
  | '!' :: conversion => match first? conversion with
    | none => .error .noConversion
    | some (_, []) => .error .unclosedLayout
    | some (code, '\x7d' :: rest) => return (⟨s.take n, some code, []⟩, s.length - rest.length)
    | some (code, ':' :: rest) => withLayout (some code) rest
    | some _ => .error .noColon
  | _ => return (⟨s.take n, none, []⟩, n + 1)

/-- The pieces of a template. -/
def pieces (s : List Char) : List Piece :=
  match s with
  | [] => []
  | '\x7b' :: '\x7b' :: rest => .literal '\x7b' :: pieces rest
  | '\x7d' :: '\x7d' :: rest => .literal '\x7d' :: pieces rest
  | ['\x7b'] => [.broken (.lonelyBrace '\x7b')]
  | '\x7d' :: _ => [.broken (.lonelyBrace '\x7d')]
  | '\x7b' :: rest =>
    match field rest with
    | .error f => [.broken f]
    | .ok (f, n) => .field f :: pieces (rest.drop n)
  | c :: rest => .literal c :: pieces rest
termination_by s.length
decreasing_by all_goals grind

/-! ### Values -/

open Reflection (Subject)

def ofPart {α : Type} (r : Except ReflectionFault α) : Except TemplateFault α :=
  r.mapError .part

/-- A text that consists of digits as a number. Too many digits are too many whatever
follows them. -/
def wholeNumber (s : List Char) : Except TemplateFault (Option Nat) := do
  let (n, rest) ← (FieldLayout.leadingNumber s).mapError .layout
  return if rest.isEmpty then n else none

/-- What the parts behind a value's name lead to. -/
def follow (value : Subject) (path : List Char) : Except TemplateFault Subject :=
  match path with
  | [] => .ok value
  | '.' :: rest => do
    let name := rest.takeWhile fun c => c != '.' && c != '['
    if name.isEmpty then .error .emptyPart
    else follow (← ofPart (value.ask (String.ofList name))) (rest.drop name.length)
  | '[' :: rest => do
    let name := rest.takeWhile (· != ']')
    if name.length = rest.length then .error .unclosedPlace
    else
      let place ← wholeNumber name
      if name.isEmpty then .error .emptyPart
      else match place with
        | some n => follow (← ofPart (value.atPlace n)) (rest.drop (name.length + 1))
        | none =>
          follow (← ofPart (value.atWord (String.ofList name))) (rest.drop (name.length + 1))
  | _ => .error .noPart
termination_by path.length
decreasing_by all_goals grind

/-- The value of a name with its parts. -/
def lookup (values : List (String × String)) (name : List Char) : Except TemplateFault Subject := do
  let first := name.takeWhile fun c => c != '.' && c != '['
  match first, ← wholeNumber first with
  | [], _ => .error (.positional 0)
  | _, some n => .error (.positional n)
  | first, none =>
    match values.lookup (String.ofList first) with
    | none => .error (.unknownField (String.ofList first))
    | some v => follow (.text v.toList) (name.drop first.length)

def convert (value : Subject) : Option Nat → Except TemplateFault Subject
  | none => .ok value
  | some code => match Char.ofNat code with
    | 's' => .ok (.text value.display)
    | 'r' => .ok (.text value.nested)
    | 'a' => .ok (.text (asciiOnly value.nested))
    | _ => .error (.unknownConversion code)

/-! ### Filling in -/

/-- Fill in one field; `expand` fills in its layout when that holds fields. -/
def fillField (values : List (String × String))
    (expand : List Char → Except TemplateFault (List Char)) (f : Field) :
    Except TemplateFault (List Char) := do
  let value ← convert (← lookup values f.name) f.conversion
  let layout ← if f.layout.contains '\x7b' then expand f.layout else pure f.layout
  if layout.isEmpty then return value.display
  else match value with
    | .text cs => (FieldLayout.text layout cs).mapError .layout
    | .whole n => (FieldLayout.whole layout n).mapError .layout
    | value => .error (.part (.noLayout value.kindName))

def fillPieces (values : List (String × String))
    (expand : List Char → Except TemplateFault (List Char)) :
    List Piece → Except TemplateFault (List Char)
  | [] => .ok []
  | .literal c :: rest => (fillPieces values expand rest).map (c :: ·)
  | .broken f :: _ => .error f
  | .field f :: rest => do
    let first ← fillField values expand f
    let more ← fillPieces values expand rest
    return first ++ more

/-- Fill in a template whose fields stand inside one another at most so deep. -/
def fill (values : List (String × String)) : Nat → List Char → Except TemplateFault (List Char)
  | 0, _ => .error .tooDeep
  | depth + 1, s => fillPieces values (fill values depth) (pieces s)

end Template

def fillTemplate (values : List (String × String)) (template : String) :
    Except TemplateFault String :=
  (Template.fill values 2 template.toList).map String.ofList

end AgentGateway.Text
