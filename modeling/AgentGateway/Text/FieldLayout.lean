import AgentGateway.Number.Places
import AgentGateway.Text.CodePoint
import AgentGateway.Text.Letter

/-! Layouts of fields.

A layout has, each of them if it is wanted: a filling sign with an alignment, a sign for
numbers, `z`, `#`, a zero, a width, a mark between groups of digits, a precision after a
point, and the letter of a kind. Texts are cut to their precision and filled up to their
width, and take nothing else. Whole numbers take everything but a precision, unless their
kind is one of those with a point. -/
namespace AgentGateway.Text

/-- What can be wrong with a layout. -/
inductive LayoutFault where
  | manyDigits
  | noPrecision
  | malformed (layout object : String)
  | unknownKind (code : Nat) (object : String)
  | bothMarks
  | mark (mark : Char) (code : Nat)
  /-- What is for numbers only, asked for a text. -/
  | onText (asked : String)
  /-- What is not for characters, asked for a number that is shown as one. -/
  | onCharacter (asked : String)
  | characterRange
  | wholePrecision
  | wholeZeroSign
  | precisionTooBig
deriving DecidableEq, Repr

namespace LayoutFault

def name : LayoutFault → String
  | characterRange => "OverflowError"
  | _ => "ValueError"

/-- A code point as messages show it, by its number when it has no plain form. -/
def shownCode (code last : Nat) : String :=
  if 32 < code ∧ code ≤ last then (Char.ofNat code).toString
  else "\\x" ++ String.ofList (Nat.toDigits 16 code)

def text : LayoutFault → String
  | manyDigits => "Too many decimal digits in format string"
  | noPrecision => "Format specifier missing precision"
  | malformed l object => s!"Invalid format specifier '{l}' for object of type '{object}'"
  | unknownKind code object =>
    s!"Unknown format code '{shownCode code 127}' for object of type '{object}'"
  | bothMarks => "Cannot specify both ',' and '_'."
  | mark m code => s!"Cannot specify '{m}' with '{shownCode code 127}'."
  | onText asked => s!"{asked} not allowed in string format specifier"
  | onCharacter asked => s!"{asked} not allowed with integer format specifier 'c'"
  | characterRange => "%c arg not in range(0x110000)"
  | wholePrecision => "Precision not allowed in integer format specifier"
  | wholeZeroSign => "Negative zero coercion (z) not allowed in integer format specifier"
  | precisionTooBig => "precision too big"

end LayoutFault

structure FieldLayout where
  fill : Option (List Char)
  align : Option Char
  sign : Option Char
  zeroSign : Bool
  alternate : Bool
  zero : Bool
  width : Nat
  mark : Option Char
  precision : Option Nat
  kind : Option Nat
deriving DecidableEq, Repr

namespace FieldLayout

/-! ### Numbers in layouts -/

def mostDigits : Nat := Nat.pow 2 63 - 1

/-- The number that digits of any script make up; `none` if they are no digits. -/
def number? (s : List Char) : Option Nat :=
  if s.isEmpty then none
  else s.foldl (fun n c => do return 10 * (← n) + (← decimalDigit? c)) (some 0)

/-- The digits in front, as a number if there are any, with what follows them. -/
def leadingNumber (s : List Char) : Except LayoutFault (Option Nat × List Char) :=
  let digits := s.takeWhile fun c => (decimalDigit? c).isSome
  match number? digits with
  | none => .ok (none, s)
  | some n => if mostDigits < n then .error .manyDigits else .ok (some n, s.drop digits.length)

/-! ### Reading -/

def isAlign (c : Char) : Bool := c == '<' || c == '>' || c == '^' || c == '='

def isSign (c : Char) : Bool := c == '+' || c == '-' || c == ' '

/-- The filling sign, if one is given, and the alignment in front of a layout. -/
def alignment (s : List Char) : Option (List Char) × Option Char × List Char :=
  match first? s with
  | some (code, a :: rest) => if isAlign a then (some (spell code), some a, rest) else bare s
  | _ => bare s
where
  bare : List Char → Option (List Char) × Option Char × List Char
    | a :: rest => if isAlign a then (none, some a, rest) else (none, none, a :: rest)
    | [] => (none, none, [])

/-- One character in front when it is of a kind. -/
def optional (p : Char → Bool) : List Char → Option Char × List Char
  | c :: rest => if p c then (some c, rest) else (none, c :: rest)
  | [] => (none, [])

/-- The mark between groups of digits, which is a comma or an underscore and not both. -/
def groupMark (s : List Char) : Except LayoutFault (Option Char × List Char) :=
  match s with
  | ',' :: '_' :: _ => .error .bothMarks
  | '_' :: ',' :: _ => .error .bothMarks
  | s => .ok (optional (fun c => c == ',' || c == '_') s)

/-- Kinds of numbers, whose digits may be grouped. -/
def isGrouped (mark kind : Char) : Bool :=
  "defgEG%F".contains kind || (mark == '_' && "boxX".contains kind)

/-- A layout for an object whose usual kind is given. -/
def read (object : String) (usual : Char) (layout : List Char) : Except LayoutFault FieldLayout := do
  let (fill, align, s) := alignment layout
  let (sign, s) := optional isSign s
  let (zeroSign, s) := optional (· == 'z') s
  let (alternate, s) := optional (· == '#') s
  let (zero, s) := if fill.isNone then optional (· == '0') s else (none, s)
  let (width, s) ← leadingNumber s
  let (mark, s) ← groupMark s
  let (precision, s) ← match s with
    | '.' :: rest => do
      let (n, s) ← leadingNumber rest
      if n.isNone then .error .noPrecision else pure (n, s)
    | s => pure (none, s)
  let kind ← match codes s with
    | [] => pure none
    | [n] => pure (some n)
    | _ => .error (.malformed (String.ofList layout) object)
  let code := kind.getD usual.toNat
  if let some m := mark then
    if !isGrouped m (Char.ofNat code) then .error (.mark m code)
  return {
    fill, align, sign, mark, precision, kind
    zeroSign := zeroSign.isSome
    alternate := alternate.isSome
    zero := zero.isSome
    width := width.getD 0 }

/-! ### Texts -/

def filling (l : FieldLayout) : List Char := l.fill.getD (if l.zero then ['0'] else [' '])

def repeated (n : Nat) (sign : List Char) : List Char := (List.replicate n sign).flatten

/-- What is laid out between two paddings. -/
def pad (l : FieldLayout) (align : Char) (value : List Char) : List Char :=
  let missing := l.width - size value
  let before := if align = '>' then missing else if align = '^' then missing / 2 else 0
  repeated before l.filling ++ value ++ repeated (missing - before) l.filling

/-- A text laid out. Much of what a layout can say is for numbers and refused here. -/
def text (layout value : List Char) : Except LayoutFault (List Char) := do
  let l ← read "str" 's' layout
  if let some code := l.kind then
    if code ≠ 's'.toNat then .error (.unknownKind code "str")
  if let some c := l.sign then .error (.onText (if c = ' ' then "Space" else "Sign"))
  if l.zeroSign then .error (.onText "Negative zero coercion (z)")
  if l.alternate then .error (.onText "Alternate form (#)")
  if l.align = some '=' then .error (.onText "'=' alignment")
  return l.pad (l.align.getD '<') (l.precision.elim value fun n => takeCodes n value)

/-! ### Numbers -/

/-- A number before it is laid out: what stands in front of its digits, its digits up to a
point, and what follows them. -/
structure Parts where
  negative : Bool
  front : List Char
  digits : List Char
  rest : List Char

/-- Digits in groups, the last digit first, with zeros behind them up to a width that the
marks count for. -/
def groups (count : Nat) (mark : Char) (width : Int) (digits : List Char) : Nat → List Char
  | 0 => []
  | fuel + 1 =>
    let taken := min (count : Int) (max (max digits.length width) 1)
    let group := digits.take taken.toNat
    let zeros := List.replicate (taken.toNat - group.length) '0'
    if digits.length ≤ taken.toNat ∧ width ≤ taken then group ++ zeros
    else group ++ zeros ++ mark ::
      groups count mark (width - taken - 1) (digits.drop taken.toNat) fuel

/-- Digits up to a width, in groups if they are wanted. -/
def groupedDigits (mark : Option Char) (count : Nat) (width : Int) (digits : List Char) :
    List Char :=
  match mark with
  | none => List.replicate (width.toNat - digits.length) '0' ++ digits
  | some m => (groups count m width digits.reverse (digits.length + width.toNat + 1)).reverse

/-- A number laid out, with so many digits in a group. -/
def number (l : FieldLayout) (count : Nat) (p : Parts) : List Char :=
  let align := l.align.getD (if l.zero then '=' else '>')
  let sign := if p.negative then ['-'] else match l.sign with
    | some '+' => ['+']
    | some ' ' => [' ']
    | _ => []
  let apart := sign.length + p.front.length + size p.rest
  let width : Int := if l.filling = ['0'] ∧ align = '=' then (l.width : Int) - apart else 0
  let digits := if p.digits.isEmpty then [] else groupedDigits l.mark count width p.digits
  let missing := l.width - (apart + digits.length)
  if align = '=' then
    sign ++ p.front ++ repeated missing l.filling ++ digits ++ p.rest
  else l.pad align (sign ++ p.front ++ digits ++ p.rest)

/-- Digits in a base, behind the mark of the base if it is wanted. -/
def inBase (l : FieldLayout) (base : Nat) (mark : String) (n : Int) : Parts :=
  ⟨n < 0, if l.alternate then mark.toList else [], Nat.toDigits base n.natAbs, []⟩

/-- A whole number that is shown as the character with its number. -/
def character (l : FieldLayout) (n : Int) : Except LayoutFault (List Char) :=
  if l.sign.isSome then .error (.onCharacter "Sign")
  else if l.alternate then .error (.onCharacter "Alternate form (#)")
  else if n < 0 ∨ 0x110000 ≤ n then .error .characterRange
  else .ok (l.number 3 ⟨false, [], [], spell n.toNat⟩)

/-- A whole number that is shown in digits. -/
def inDigits (l : FieldLayout) (kind : Char) (n : Int) : List Char :=
  match kind with
  | 'b' => l.number 4 (l.inBase 2 "0b" n)
  | 'o' => l.number 4 (l.inBase 8 "0o" n)
  | 'x' => l.number 4 (l.inBase 16 "0x" n)
  | 'X' =>
    let p := l.inBase 16 "0x" n
    l.number 4 ⟨p.negative, p.front.map Char.toUpper, p.digits.map Char.toUpper, []⟩
  | _ => l.number 3 ⟨n < 0, [], Nat.toDigits 10 n.natAbs, []⟩

/-- A whole number that is shown with a point. -/
def withPoint (l : FieldLayout) (kind : Char) (n : Int) : List Char :=
  let places := l.precision.getD 6
  let d := (Double.ofInt (if kind = '%' then n * 100 else n)).getD (.infinity (n < 0))
  let shown := match kind with
    | 'e' | 'E' => d.scientific l.alternate places
    | 'g' | 'G' => d.general l.alternate places
    | _ => d.fixed l.alternate places
  let shown := if kind.isUpper then shown.map Char.toUpper else shown
  let shown := if kind = '%' then shown ++ ['%'] else shown
  l.number 3 ⟨n < 0, [], shown.takeWhile Char.isDigit, shown.dropWhile Char.isDigit⟩

/-- The most places behind a point. -/
def mostPlaces : Nat := Nat.pow 2 31 - 1

/-- A whole number laid out. -/
def whole (layout : List Char) (n : Int) : Except LayoutFault (List Char) := do
  let l ← read "int" 'd' layout
  let code := l.kind.getD 'd'.toNat
  let kind := Char.ofNat code
  if "eEfFgG%".contains kind then
    if mostPlaces < l.precision.getD 0 then .error .precisionTooBig
    else return l.withPoint kind n
  else if !"bcdoxXn".contains kind then .error (.unknownKind code "int")
  else if l.precision.isSome then .error .wholePrecision
  else if l.zeroSign then .error .wholeZeroSign
  else if kind = 'c' then l.character n
  else return l.inDigits kind n

end FieldLayout
end AgentGateway.Text
