import AgentGateway.Number.Decimal
import AgentGateway.Schema.Checked
import AgentGateway.Text.Blank
import AgentGateway.Text.CodePoint
import AgentGateway.Value

/-! Lax reading of texts, numbers, truth values and points in time.

A whole number may come as a truth value, as a double without a fraction or as a
text; a truth value as one of a few words or as zero or one. What is read is
already in its written form: reading it a second time changes nothing. -/
namespace AgentGateway.Schema
open Checked

def text : Value → Checked String
  | .text s => ok s
  | _ => fail .notText

/-- What is read from a text, if the text can be encoded; one that is only kept need not be. -/
def encoded {α : Type} (s : String) (read : List Char → Checked α) : Checked α :=
  if Text.isEncodable s.toList then read s.toList else fail .unencodable

/-! ### Numbers in texts -/

/-- Single underscores between other characters are dropped; none may stand at an
end or beside another. -/
def withoutUnderscores? (s : List Char) : Option (List Char) :=
  if s.head? = some '_' ∨ s.getLast? = some '_' ∨ (s.zip (s.drop 1)).contains ('_', '_') then none
  else some (s.filter (· != '_'))

/-- Cut the zeros in front of a number that begins with one. What follows them may be
a digit, a minus sign or a point, which keeps the character before it; where nothing
follows, the last character stays. -/
def cutZeros? : List Char → Option (List Char)
  | '0' :: rest =>
    let zeros := rest.takeWhile fun c => c == '0' || c == '_'
    match rest.drop zeros.length with
    | [] => some [rest.getLast?.getD '0']
    | c :: more =>
      if c = '-' ∨ (c.isDigit ∧ c ≠ '0') then some (c :: more)
      else if c = '.' then some (zeros.getLast?.getD '0' :: c :: more)
      else none
  | c :: rest => if c.isDigit then some (c :: rest) else none
  | [] => none

/-- The zeros in front may stand behind a minus sign. -/
def withoutLeadingZeros? : List Char → Option (List Char)
  | '-' :: rest => (cutZeros? rest).map ('-' :: ·)
  | s => cutZeros? s

/-- Cut a point that at least one zero follows, and nothing but zeros. -/
def withoutZeroFraction (s : List Char) : List Char :=
  let whole := s.takeWhile (· != '.')
  match s.dropWhile (· != '.') with
  | '.' :: '0' :: rest => if rest.all (· == '0') then whole else s
  | _ => s

def withoutPlus? : List Char → Option (List Char)
  | '+' :: '-' :: _ => none
  | '+' :: rest => some rest
  | s => some s

/-- Digits without a zero in front, after an optional minus sign. -/
def plainInt? (s : List Char) : Option Int :=
  let (negative, digits) := match s with
    | '-' :: rest => (true, rest)
    | s => (false, s)
  if digits.isEmpty ∨ !digits.all Char.isDigit ∨ (digits.head? = some '0' ∧ 1 < digits.length) then none
  else
    let n : Int := digits.foldl (fun n c => 10 * n + (c.toNat - 48)) 0
    some (if negative then -n else n)

/-- Numbers whose sign and digits are more characters are refused, whatever follows. -/
def intTextLimit : Nat := 4300

def isOversized (s : List Char) : Bool :=
  let (sign, rest) := s.span (· == '-')
  sign.length ≤ 1 && rest.head? != some '0' &&
    intTextLimit < sign.length + (rest.takeWhile Char.isDigit).length

def intText (s : List Char) : Checked Int :=
  let cleaned := do
    let s ← withoutPlus? (Text.trim s)
    let s := withoutZeroFraction (← withoutLeadingZeros? s)
    return (withoutUnderscores? s).getD s
  match cleaned with
  | none => fail .unreadableInt
  | some s =>
    if isOversized s then fail .oversizedInt
    else match plainInt? s with
      | none => fail .unreadableInt
      | some n => ok n

def equalsIgnoringCase (word : String) (s : List Char) : Bool := s.map Char.toLower == word.toList

def plainFloat? (s : List Char) : Option Double :=
  let (negative, s) := match s with
    | '-' :: rest => (true, rest)
    | '+' :: rest => (false, rest)
    | s => (false, s)
  if equalsIgnoringCase "inf" s || equalsIgnoringCase "infinity" s then some (.infinity negative)
  else if equalsIgnoringCase "nan" s then some .nan
  else Double.ofDecimalText? negative s

def floatText? (s : List Char) : Option Double :=
  (plainFloat? (Text.trim s)).orElse fun _ => (withoutUnderscores? s).bind plainFloat?

/-! ### Numbers -/

/-- The whole number that a double of moderate size is: less than `2 ^ 63` from zero. -/
def wholeOf? (d : Double) : Option Int := d.toInt?.filter fun n => n.natAbs < Nat.pow 2 63

def int : Value → Checked Int
  | .int n => ok n
  | .bool b => ok (if b then 1 else 0)
  | .float d =>
    if !d.isFinite then fail .infiniteNumber
    else if !d.isWhole then fail .fractionalInt
    else (wholeOf? d).elim (fail .oversizedInt) ok
  | .text s => encoded s intText
  | _ => fail .notInt

def positiveInt (v : Value) : Checked Int :=
  (int v).andThen fun n => if n < 1 then fail .notPositive else ok n

def float : Value → Checked Double
  | .float d => ok d
  | .int n => match Double.ofInt n with
    | some d => ok d
    | none => fail .notFloat
  | .bool b => ok (if b then .one else .pack false 0)
  | .text s => encoded s fun cs => (floatText? cs).elim (fail .unreadableFloat) ok
  | _ => fail .notFloat

def falseWords : List String := ["0", "off", "f", "false", "n", "no"]

def trueWords : List String := ["1", "on", "t", "true", "y", "yes"]

def boolOfInt (n : Int) : Checked Bool :=
  if n = 0 then ok false
  else if n = 1 then ok true
  else if n.natAbs < Nat.pow 2 63 ∨ n = -(Nat.pow 2 63 : Int) then fail .unreadableBool
  else fail .notBool

def bool : Value → Checked Bool
  | .bool b => ok b
  | .int n => boolOfInt n
  | .float d => match wholeOf? d with
    | some n => boolOfInt n
    | none => fail .notBool
  | .text s => encoded s fun cs =>
    if falseWords.any (equalsIgnoringCase · cs) then ok false
    else if trueWords.any (equalsIgnoringCase · cs) then ok true
    else fail .unreadableBool
  | _ => fail .notBool

/-! ### Points in time -/

/-- A moment that the calendar holds: its year is not 0. -/
def placed : Option Moment → Checked Moment
  | some m => if m.date.year = 0 then fail .misplacedMoment else ok m
  | none => fail .misplacedMoment

/-- A point in time: its written form, or seconds counted from 1970. -/
def moment : Value → Checked Moment
  | .moment m => ok m
  | .int n => if (Double.ofInt n).isNone then fail .notMoment else placed (Moment.ofCount? n)
  | .float d => placed (Moment.ofDouble? d)
  | .text s => encoded s fun cs =>
    match (Moment.ofText? cs).or (Moment.ofCountText? cs) with
    | some m => placed (some m)
    | none => fail .unreadableMoment
  | _ => fail .notMoment

end AgentGateway.Schema
