import AgentGateway.Text.CodePoint
import AgentGateway.Value

/-! Values from JSON text.

The grammar is that of JSON, with `NaN`, `Infinity` and `-Infinity` as further
numbers. A number without a point and an exponent is a whole number of any size
up to `digitLimit` digits; any other is a double. A key that is repeated keeps
its first place and its last value. A document may be nested only so deep. -/
namespace AgentGateway.Json

/-! ### Tokens -/

def isBlank (c : Char) : Bool := c == ' ' || c == '\t' || c == '\n' || c == '\r'

def skipBlanks (s : List Char) : List Char := s.dropWhile isBlank

/-- The text after a given beginning. -/
def after? : List Char → List Char → Option (List Char)
  | [], s => some s
  | _ :: _, [] => none
  | c :: word, d :: s => if c = d then after? word s else none

def hexValue? (c : Char) : Option Nat :=
  let n := c.toNat
  if 48 ≤ n ∧ n ≤ 57 then some (n - 48)
  else if 97 ≤ n ∧ n ≤ 102 then some (n - 87)
  else if 65 ≤ n ∧ n ≤ 70 then some (n - 55)
  else none

def hexValue4? (a b c d : Char) : Option Nat := do
  return (((← hexValue? a) * 16 + (← hexValue? b)) * 16 + (← hexValue? c)) * 16 + (← hexValue? d)

/-- The character that a letter stands for after a backslash. -/
def escaped? (c : Char) : Option Char :=
  match c with
  | '"' => some '"'
  | '\\' => some '\\'
  | '/' => some '/'
  | 'b' => some '\x08'
  | 'f' => some '\x0c'
  | 'n' => some '\n'
  | 'r' => some '\r'
  | 't' => some '\t'
  | _ => none

def inFront (s : List Char) (r : List Char × List Char) : List Char × List Char := (s ++ r.1, r.2)

/-- The rest of a string and what follows its closing quote. -/
def stringBody? : List Char → Option (List Char × List Char)
  | [] => none
  | '"' :: rest => some ([], rest)
  | '\\' :: 'u' :: a :: b :: c :: d :: '\\' :: 'u' :: e :: f :: g :: h :: rest => do
    let high ← hexValue4? a b c d
    let low ← hexValue4? e f g h
    if Text.isHighSurrogate high && Text.isLowSurrogate low then
      (stringBody? rest).map (inFront (Text.spell (Text.pairCode high low)))
    else
      (stringBody? ('\\' :: 'u' :: e :: f :: g :: h :: rest)).map (inFront (Text.spell high))
  | '\\' :: 'u' :: a :: b :: c :: d :: rest => do
    let n ← hexValue4? a b c d
    (stringBody? rest).map (inFront (Text.spell n))
  | '\\' :: c :: rest => do
    let c ← escaped? c
    (stringBody? rest).map (inFront [c])
  | c :: rest => if c.toNat < 32 then none else (stringBody? rest).map (inFront [c])

/-! ### Numbers -/

/-- Whole numbers with more digits are refused. -/
def digitLimit : Nat := 4300

def digitsValue (ds : List Char) : Nat := ds.foldl (fun n c => 10 * n + (c.toNat - 48)) 0

/-- The digits at the front, and the rest. -/
def spanDigits (s : List Char) : List Char × List Char :=
  (s.takeWhile Char.isDigit, s.dropWhile Char.isDigit)

/-- The digits after a point, when a digit follows it. -/
def fractionPart : List Char → Option (List Char × List Char)
  | '.' :: s => let r := spanDigits s; if r.1.isEmpty then none else some r
  | _ => none

/-- An exponent with its sign, when a digit follows. -/
def exponentPart : List Char → Option (Int × List Char)
  | c :: s =>
    if c = 'e' ∨ c = 'E' then
      let (negative, s) := match s with
        | '-' :: s => (true, s)
        | '+' :: s => (false, s)
        | s => (false, s)
      let r := spanDigits s
      if r.1.isEmpty then none
      else
        let n : Int := digitsValue r.1
        some (if negative then -n else n, r.2)
    else none
  | [] => none

/-- A number after its sign. -/
def unsigned? (negative : Bool) (s : List Char) : Option (Value × List Char) :=
  let (whole, rest) := match s with
    | '0' :: rest => (['0'], rest)
    | s => spanDigits s
  if whole.isEmpty then none
  else
    match fractionPart rest, exponentPart ((fractionPart rest).elim rest (·.2)) with
    | none, none =>
      if digitLimit < whole.length then none
      else
        let n : Int := digitsValue whole
        some (.int (if negative then -n else n), rest)
    | fraction, exponent =>
      let places := fraction.elim [] (·.1)
      let after := (fraction.elim rest (·.2))
      let (e, after) := exponent.getD (0, after)
      some (.float (.ofDecimal negative (digitsValue (whole ++ places)) (e - places.length)), after)

def number? : List Char → Option (Value × List Char)
  | '-' :: s =>
    match after? "Infinity".toList s with
    | some rest => some (.float (.infinity true), rest)
    | none => unsigned? true s
  | s => unsigned? false s

/-- The words that stand for a value. -/
def words : List (List Char × Value) :=
  [("null".toList, .null), ("true".toList, .bool true), ("false".toList, .bool false),
    ("NaN".toList, .float .nan), ("Infinity".toList, .float (.infinity false))]

def word? (s : List Char) : Option (Value × List Char) :=
  words.findSome? fun (w, v) => (after? w s).map fun rest => (v, rest)

/-! ### Values -/

/-- Why a text is no document. -/
inductive ReadFault where
  | malformed
  | tooDeep
deriving DecidableEq, Repr

/-- What is read of a text, or why nothing is. -/
abbrev Reading (α : Type) := Except ReadFault α

def Reading.ofOption {α : Type} (r : Option α) : Reading α := r.elim (.error .malformed) .ok

mutual
/-- A value without blanks in front of it; `levels` more may be opened. -/
def value? (levels : Nat) (s : List Char) : Nat → Reading (Value × List Char)
  | 0 => .error .malformed
  | fuel + 1 =>
    match s, levels with
    | '"' :: rest, _ =>
      Reading.ofOption ((stringBody? rest).map fun r => (.text (String.ofList r.1), r.2))
    | '[' :: _, 0 => .error .tooDeep
    | '[' :: rest, levels + 1 =>
      match skipBlanks rest with
      | ']' :: rest => .ok (.list [], rest)
      | rest => (items? levels rest fuel).map fun r => (.list r.1, r.2)
    | '\x7b' :: _, 0 => .error .tooDeep
    | '\x7b' :: rest, levels + 1 =>
      match skipBlanks rest with
      | '\x7d' :: rest => .ok (.object [], rest)
      | rest => (entries? levels rest fuel).map fun r => (Value.ofPairs r.1, r.2)
    | s, _ => Reading.ofOption ((word? s).orElse fun _ => number? s)
/-- One item or more, up to the closing bracket. -/
def items? (levels : Nat) (s : List Char) : Nat → Reading (List Value × List Char)
  | 0 => .error .malformed
  | fuel + 1 => do
    let (v, rest) ← value? levels s fuel
    match skipBlanks rest with
    | ']' :: rest => .ok ([v], rest)
    | ',' :: rest => (items? levels (skipBlanks rest) fuel).map fun r => (v :: r.1, r.2)
    | _ => .error .malformed
/-- One entry or more, up to the closing brace. -/
def entries? (levels : Nat) (s : List Char) : Nat → Reading (List (String × Value) × List Char)
  | 0 => .error .malformed
  | fuel + 1 =>
    match s with
    | '"' :: rest => do
      let (key, rest) ← Reading.ofOption (stringBody? rest)
      match skipBlanks rest with
      | ':' :: rest =>
        let (v, rest) ← value? levels (skipBlanks rest) fuel
        let entry := (String.ofList key, v)
        match skipBlanks rest with
        | '\x7d' :: rest => .ok ([entry], rest)
        | ',' :: rest => (entries? levels (skipBlanks rest) fuel).map fun r => (entry :: r.1, r.2)
        | _ => .error .malformed
      | _ => .error .malformed
    | _ => .error .malformed
end

/-- A document: one value with nothing but blanks around it. -/
def document (levels : Nat) (s : List Char) : Reading Value := do
  let (v, rest) ← value? levels (skipBlanks s) (s.length + 1)
  if (skipBlanks rest).isEmpty then .ok v else .error .malformed

/-- A document of any depth. -/
def read? (s : String) : Option Value := (document s.length s.toList).toOption

end AgentGateway.Json
