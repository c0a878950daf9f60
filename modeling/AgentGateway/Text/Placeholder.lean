import AgentGateway.Number.Places
import AgentGateway.Value.Display

/-! Messages with placeholders.

A placeholder is a percent sign, an optional key in parentheses, flags, a width, a
precision after a point, a size letter that means nothing, and the letter of its
kind. A doubled percent sign stands for one. A star takes a width or a precision from
the values. A placeholder with a key asks for that entry of a mapping, one without a
key for the next value.

A message is cut into pieces first; then the pieces take their values from left to
right, so that of several mistakes the leftmost is reported. -/
namespace AgentGateway.Text

/-- A message and values that do not go together. -/
inductive Mismatch where
  | tooFewValues
  | tooManyValues
  | notNumber (kind : Char) (given : String)
  | notWhole (kind : Char) (given : String)
  | notDouble (given : String)
  | notCharacter
  | characterRange
  | starNeedsWhole
  | starTooLarge (unit : String)
  | tooLarge (amount : String)
  | needsMapping
  /-- An entry of a list that is asked for by a key. -/
  | listKey
  | unknownKey (key : String)
  | openKey
  | cutOff
  | unknownKind (code position : Nat)
  | infinityToWhole
  | nanToWhole
  | wholeTooLarge
deriving DecidableEq, Repr

namespace Mismatch

def name : Mismatch → String
  | unknownKey _ => "KeyError"
  | openKey | cutOff | unknownKind .. | tooLarge _ | nanToWhole => "ValueError"
  | characterRange | starTooLarge _ | infinityToWhole | wholeTooLarge => "OverflowError"
  | _ => "TypeError"

def shownKind (code : Nat) : Char := if 31 ≤ code ∧ code ≤ 126 then Char.ofNat code else '?'

def text : Mismatch → String
  | tooFewValues => "not enough arguments for format string"
  | tooManyValues => "not all arguments converted during string formatting"
  | notNumber k given => s!"%{k} format: a real number is required, not {given}"
  | notWhole k given => s!"%{k} format: an integer is required, not {given}"
  | notDouble given => s!"must be real number, not {given}"
  | notCharacter => "%c requires int or char"
  | characterRange => "%c arg not in range(0x110000)"
  | starNeedsWhole => "* wants int"
  | starTooLarge unit => s!"Python int too large to convert to C {unit}"
  | tooLarge amount => s!"{amount} too big"
  | needsMapping => "format requires a mapping"
  | listKey => "list indices must be integers or slices, not str"
  | unknownKey key => quoted key
  | openKey => "incomplete format key"
  | cutOff => "incomplete format"
  | unknownKind code position =>
    s!"unsupported format character '{shownKind code}' " ++
      s!"(0x{String.ofList (Nat.toDigits 16 code)}) at index {position}"
  | infinityToWhole => "cannot convert float infinity to integer"
  | nanToWhole => "cannot convert float NaN to integer"
  | wholeTooLarge => "int too large to convert to float"

end Mismatch

/-- What a message is filled with. -/
inductive Filling where
  /-- Values that the placeholders take one after another. -/
  | inTurn (values : List Value)
  /-- One value; if it is an object, its entries are asked for by key. -/
  | single (v : Value)

/-- Whether there is nothing to fill in, so that a message stands as it is. -/
def Filling.isVoid : Filling → Bool
  | inTurn values => values.isEmpty
  | single v => v.isVoid

namespace Placeholder

/-! ### Pieces -/

/-- A width or a precision. -/
inductive Amount where
  | given (n : Nat)
  /-- To be taken from the values. -/
  | star
deriving DecidableEq, Repr

structure Flags where
  left : Bool
  plus : Bool
  blank : Bool
  marked : Bool
  zero : Bool
deriving DecidableEq, Repr

inductive Key where
  | absent
  | named (key : String)
  /-- A parenthesis that is never closed. -/
  | unclosed
deriving DecidableEq, Repr

structure Field where
  key : Key
  flags : Flags
  width : Option Amount
  precision : Option Amount
  /-- The code point of the kind with its position; `none` at the end of the message. -/
  kind : Option (Nat × Nat)
deriving DecidableEq, Repr

inductive Piece where
  | literal (c : Char)
  | placeholder (p : Field)
deriving DecidableEq, Repr

/-- The length of a key up to the parenthesis that closes it; inner ones are paired. -/
def keyLength? (depth : Nat) : List Char → Option Nat
  | [] => none
  | ')' :: rest => if depth = 0 then some 0 else (keyLength? (depth - 1) rest).map (· + 1)
  | '(' :: rest => (keyLength? (depth + 1) rest).map (· + 1)
  | _ :: rest => (keyLength? depth rest).map (· + 1)

/-- A key in front, with the number of characters that it takes. -/
def key : List Char → Key × Nat
  | '(' :: rest => match keyLength? 0 rest with
    | some n => (.named (String.ofList (rest.take n)), n + 2)
    | none => (.unclosed, rest.length + 1)
  | _ => (.absent, 0)

def isFlag (c : Char) : Bool := c == '-' || c == '+' || c == ' ' || c == '#' || c == '0'

def flagsOf (cs : List Char) : Flags :=
  ⟨cs.contains '-', cs.contains '+', cs.contains ' ', cs.contains '#', cs.contains '0'⟩

def valueOf (digits : List Char) : Nat := digits.foldl (fun n c => 10 * n + (c.toNat - 48)) 0

/-- An amount in front, with the number of characters that it takes. -/
def amount (s : List Char) : Option Amount × Nat :=
  match s with
  | '*' :: _ => (some .star, 1)
  | s =>
    let digits := s.takeWhile Char.isDigit
    (if digits.isEmpty then none else some (.given (valueOf digits)), digits.length)

def isSize (c : Char) : Bool := c == 'h' || c == 'l' || c == 'L'

/-- The placeholder behind a percent sign at `position`, with the number of characters
that it takes. -/
def read (position : Nat) (s : List Char) : Field × Nat :=
  let (key, keyed) := key s
  let flags := (s.drop keyed).takeWhile isFlag
  let flagged := keyed + flags.length
  let (width, n) := amount (s.drop flagged)
  let widened := flagged + n
  let (precision, precise) := match s.drop widened with
    | '.' :: rest =>
      let (precision, n) := amount rest
      (some (precision.getD (.given 0)), widened + 1 + n)
    | _ => (none, widened)
  let sized := match s.drop precise with
    | c :: _ => if isSize c then precise + 1 else precise
    | [] => precise
  let kind := first? (s.drop sized)
  let taken := s.length - (kind.elim 0 fun k => k.2.length)
  (⟨key, flagsOf flags, width, precision,
    kind.map fun k => (k.1, position + 1 + size (s.take sized))⟩, taken)

/-- The pieces of a message whose first code point stands at `position`. -/
def pieces (position : Nat) (s : List Char) : List Piece :=
  match s with
  | [] => []
  | '%' :: '%' :: rest => .literal '%' :: pieces (position + 2) rest
  | '%' :: rest =>
    let (p, n) := read position rest
    .placeholder p :: pieces (position + 1 + size (rest.take n)) (rest.drop n)
  | c :: rest => .literal c :: pieces (position + size [c]) rest
termination_by s.length
decreasing_by all_goals grind

/-! ### Values -/

/-- What is left to be filled in. -/
structure Supply where
  values : List Value
  /-- What is asked by key. -/
  entries : Option Value

/-- Values in turn have no keys; a single value with entries of its own may be asked for
them. -/
def Supply.ofFilling : Filling → Supply
  | .inTurn values => ⟨values, none⟩
  | .single v => ⟨[v], match v with
    | .object _ | .list _ => some v
    | _ => none⟩

def Supply.next (s : Supply) : Except Mismatch (Value × Supply) :=
  match s.values with
  | [] => .error .tooFewValues
  | v :: rest => .ok (v, { s with values := rest })

/-- With a key, the entry under it is the only value left. -/
def Supply.select (s : Supply) (k : Key) : Except Mismatch Supply :=
  match k, s.entries with
  | .absent, _ => .ok s
  | _, none => .error .needsMapping
  | .unclosed, some _ => .error .openKey
  | .named key, some (.object m) => match Keyed.get? m key with
    | some v => .ok { s with values := [v] }
    | none => .error (.unknownKey key)
  | .named _, some _ => .error .listKey

/-- A whole number for a star. -/
def starValue : Value → Except Mismatch Int
  | .int n => .ok n
  | .bool b => .ok (if b then 1 else 0)
  | _ => .error .starNeedsWhole

/-- What a width or a precision is called, and how large it may be. -/
structure Limit where
  name : String
  unit : String
  most : Nat

def widthLimit : Limit := ⟨"width", "ssize_t", Nat.pow 2 63 - 1⟩

def precisionLimit : Limit := ⟨"precision", "int", Nat.pow 2 31 - 1⟩

/-- An amount as a number, `none` where there is none. -/
def Supply.amount (s : Supply) (l : Limit) : Option Amount → Except Mismatch (Option Int × Supply)
  | none => .ok (none, s)
  | some (.given n) => if l.most < n then .error (.tooLarge l.name) else .ok (some n, s)
  | some .star => do
    let (v, s) ← s.next
    let n ← starValue v
    if n < -(l.most : Int) - 1 ∨ l.most < n then .error (.starTooLarge l.unit)
    else return (some n, s)

/-! ### Shown values -/

/-- A value before it is filled up to its width. -/
structure Shown where
  /-- Whether sign and zero flags count. -/
  numeric : Bool
  negative : Bool
  /-- What stands between the sign and the digits. -/
  mark : List Char
  body : List Char

def Shown.ofText (body : List Char) : Shown := ⟨false, false, [], body⟩

def wholeOf (kind : Char) : Value → Except Mismatch Int
  | .int n => .ok n
  | .bool b => .ok (if b then 1 else 0)
  | .float d =>
    if d.isNaN then .error .nanToWhole
    else if !d.isFinite then .error .infinityToWhole
    else .ok d.truncate
  | v => .error (.notNumber kind v.kindName)

/-- A whole number that is written in other digits than ten. -/
def strictWholeOf (kind : Char) : Value → Except Mismatch Int
  | .int n => .ok n
  | .bool b => .ok (if b then 1 else 0)
  | v => .error (.notWhole kind v.kindName)

def doubleOf : Value → Except Mismatch Double
  | .float d => .ok d
  | .int n => match Double.ofInt n with
    | some d => .ok d
    | none => .error .wholeTooLarge
  | .bool b => .ok (if b then Double.one else ⟨0⟩)
  | v => .error (.notDouble v.kindName)

def whole (base : Nat) (mark : List Char) (precision : Option Nat) (n : Int) : Shown :=
  let digits := Nat.toDigits base n.natAbs
  ⟨true, n < 0, mark, List.replicate (precision.getD 0 - digits.length) '0' ++ digits⟩

def double (form : Double → List Char) (d : Double) : Shown :=
  ⟨true, d.negative && !d.isNaN, [],
    if d.isNaN then "nan".toList else if !d.isFinite then "inf".toList else form d⟩

def Shown.upper (s : Shown) : Shown :=
  { s with mark := s.mark.map Char.toUpper, body := s.body.map Char.toUpper }

/-- The code point that a value is, or whose number it is. -/
def characterOf : Value → Except Mismatch Nat
  | .text s => match codes s.toList with
    | [n] => .ok n
    | _ => .error .notCharacter
  | .int n => if 0 ≤ n ∧ n < 0x110000 then .ok n.toNat else .error .characterRange
  | .bool b => .ok (if b then 1 else 0)
  | _ => .error .notCharacter

/-- A value as its placeholder's kind shows it. -/
def shown (code position : Nat) (marked : Bool) (precision : Option Nat) (v : Value) :
    Except Mismatch Shown :=
  let kind := Char.ofNat code
  let cut (s : List Char) : Shown := .ofText (precision.elim s fun n => takeCodes n s)
  let places := precision.getD 6
  let mark (m : String) : List Char := if marked then m.toList else []
  match kind with
  | 's' => .ok (cut v.display.toList)
  | 'r' => .ok (cut v.nested.toList)
  | 'a' => .ok (cut (asciiOnly v.nested.toList))
  | 'd' | 'i' | 'u' => (wholeOf kind v).map (whole 10 [] precision)
  | 'o' => (strictWholeOf kind v).map (whole 8 (mark "0o") precision)
  | 'x' => (strictWholeOf kind v).map (whole 16 (mark "0x") precision)
  | 'X' => (strictWholeOf kind v).map fun n => (whole 16 (mark "0x") precision n).upper
  | 'e' => (doubleOf v).map (double (Double.scientific marked places))
  | 'E' => (doubleOf v).map fun d => (double (Double.scientific marked places) d).upper
  | 'f' => (doubleOf v).map (double (Double.fixed marked places))
  | 'F' => (doubleOf v).map fun d => (double (Double.fixed marked places) d).upper
  | 'g' => (doubleOf v).map (double (Double.general marked places))
  | 'G' => (doubleOf v).map fun d => (double (Double.general marked places) d).upper
  | 'c' => (characterOf v).map fun n => .ofText (spell n)
  | _ => .error (.unknownKind code position)

/-- A shown value filled up to a width. -/
def layOut (f : Flags) (left : Bool) (width : Nat) (s : Shown) : List Char :=
  let sign := if !s.numeric then []
    else if s.negative then ['-'] else if f.plus then ['+'] else if f.blank then [' '] else []
  let front := sign ++ s.mark
  let missing (c : Char) := List.replicate (width - (front.length + size s.body)) c
  if left then front ++ s.body ++ missing ' '
  else if s.numeric && f.zero then front ++ missing '0' ++ s.body
  else missing ' ' ++ front ++ s.body

/-- Fill in one placeholder. -/
def fillOne (p : Field) (s : Supply) : Except Mismatch (List Char × Supply) := do
  let s ← s.select p.key
  let (width, s) ← s.amount widthLimit p.width
  let (precision, s) ← s.amount precisionLimit p.precision
  match p.kind with
  | none => .error .cutOff
  | some (kind, position) =>
    let (v, s) ← s.next
    let value ← shown kind position p.flags.marked (precision.map Int.toNat) v
    let width := width.getD 0
    return (layOut p.flags (p.flags.left || width < 0) width.natAbs value, s)

def fillAll : List Piece → Supply → Except Mismatch (List Char × Supply)
  | [], s => .ok ([], s)
  | .literal c :: rest, s => do
    let (more, s) ← fillAll rest s
    return (c :: more, s)
  | .placeholder p :: rest, s => do
    let (first, s) ← fillOne p s
    let (more, s) ← fillAll rest s
    return (first ++ more, s)

end Placeholder

/-- A message with values filled in. Every value must be used, save one that has entries. -/
def fillPlaceholders (filling : Filling) (message : String) : Except Mismatch String := do
  let start := Placeholder.Supply.ofFilling filling
  let (text, s) ← Placeholder.fillAll (Placeholder.pieces 0 message.toList) start
  if s.entries.isNone ∧ !s.values.isEmpty then .error .tooManyValues
  else return String.ofList text

end AgentGateway.Text
