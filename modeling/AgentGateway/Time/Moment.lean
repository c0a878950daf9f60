import AgentGateway.Number.Decimal
import AgentGateway.Time.Civil

/-! Points in time as they are written: a date, a time of day to the microsecond
and, where one is known, the offset from UTC. A moment without an offset is read
as UTC.

Written forms are `YYYY-MM-DDTHH:MM:SS`, then the microseconds if there are any,
then the offset if it is known. Read forms are looser: the seconds may be
missing, a blank or an underscore may stand for the `T`, and a bare date is its
midnight. -/
namespace AgentGateway

structure Moment where
  date : Civil
  hour : Nat
  minute : Nat
  second : Nat
  micro : Nat
  /-- Microseconds east of UTC. -/
  offset : Option Int
deriving DecidableEq, Repr

namespace Moment

/-! ### Writing -/

/-- A number with zeros in front up to a width. -/
def padded (width n : Nat) : List Char :=
  let digits := Nat.toDigits 10 n
  List.replicate (width - digits.length) '0' ++ digits

/-- An offset: hours and minutes, then what there is of seconds and microseconds. -/
def offsetText (offset : Int) : List Char :=
  let micros := offset.natAbs % 1000000
  let n := offset.natAbs / 1000000
  (if offset < 0 then '-' else '+') ::
    (padded 2 (n / 3600) ++ ':' :: padded 2 (n / 60 % 60)) ++
    (if n % 60 = 0 ∧ micros = 0 then [] else ':' :: padded 2 (n % 60)) ++
    (if micros = 0 then [] else '.' :: padded 6 micros)

/-- What follows the year, to the second. -/
def ofYear (separator : Char) (m : Moment) : List Char :=
  '-' :: padded 2 m.date.month ++ '-' :: padded 2 m.date.day ++
    separator :: padded 2 m.hour ++ ':' :: padded 2 m.minute ++ ':' :: padded 2 m.second

/-- Date and time of day to the second. -/
def toSecond (separator : Char) (m : Moment) : List Char :=
  padded 4 m.date.year.toNat ++ m.ofYear separator

def write (separator : Char) (m : Moment) : String :=
  String.ofList <|
    m.toSecond separator ++ (if m.micro = 0 then [] else '.' :: padded 6 m.micro) ++
      (m.offset.map offsetText).getD []

/-- The form that reads back. -/
def iso (m : Moment) : String := m.write 'T'

/-- The form shown to people. -/
def display (m : Moment) : String := m.write ' '

/-! ### Seconds since 1970 -/

/-- Microseconds since 1970. -/
def micros (m : Moment) : Int :=
  let seconds := m.date.toDays * 86400 + m.hour * 3600 + m.minute * 60 + m.second
  seconds * 1000000 + m.micro - m.offset.getD 0

/-- A moment whose place in time can be told: without an offset also the day before
has to be on the calendar. -/
def isPlaced (m : Moment) : Bool := m.offset.isSome || m.date != ⟨1, 1, 1⟩

/-- Whole seconds since 1970, cut toward zero after the nearest double is taken. -/
def timestamp (m : Moment) : Int :=
  (Double.ofRatio (m.micros < 0) m.micros.natAbs 1000000).truncate

/-- The moment some microseconds after a second counted in UTC. -/
def ofUtc (seconds : Int) (micro : Nat) : Moment :=
  let day := Int.fdiv seconds 86400
  let rest := (seconds - day * 86400).toNat
  { date := Civil.ofDays day, hour := rest / 3600, minute := rest / 60 % 60, second := rest % 60
    micro, offset := some 0 }

/-- Seconds from the year 0 up to the end of the year 9999, with microseconds that may
add up to further seconds. -/
def ofSeconds? (seconds : Int) (micro : Nat) : Option Moment :=
  let seconds := seconds + (micro / 1000000 : Nat)
  if -62167219200 ≤ seconds ∧ seconds ≤ 253402300799 then some (ofUtc seconds (micro % 1000000))
  else none

/-- Numbers beyond this are milliseconds. -/
def secondsLimit : Nat := 20000000000

/-- A count of seconds, or of milliseconds when it is large. -/
def ofCount? (count : Int) : Option Moment :=
  if count.natAbs ≤ secondsLimit then ofSeconds? count 0
  else ofSeconds? (Int.fdiv count 1000) ((Int.fmod count 1000).toNat * 1000)

/-- A count with a fraction, of seconds or, when it is large, of milliseconds. -/
def ofDouble? (d : Double) : Option Moment :=
  if !d.isFinite then none
  else
    let (num, den) := d.ratio
    let signed : Int := if d.negative then -num else num
    let rounded (num den : Nat) : Nat := (2 * num + den) / (2 * den)
    if secondsLimit * den < num then
      let whole := Int.fdiv signed (1000 * den)
      ofSeconds? whole (rounded ((signed - whole * (1000 * den)).toNat * 1000) den)
    else
      let whole := d.floor
      let fraction := (Double.ofRatio false (signed - whole * den).toNat den).ratio
      let scaled := (Double.ofRatio false (fraction.1 * 1000000) fraction.2).ratio
      ofSeconds? whole (rounded scaled.1 scaled.2)

/-- The microseconds of a count of seconds on the clock, to the nearest one, a tie going
to the even one. -/
def clockMicros (d : Double) : Int :=
  let (num, den) := d.ratio
  let scaled := (Double.ofRatio false (num % den * 1000000) den).ratio
  let micros : Int := num / den * 1000000 + Double.roundHalfEven scaled.1 scaled.2
  if d.negative then -micros else micros

/-! ### Reading -/

def digit? (c : Char) : Option Nat := if c.isDigit then some (c.toNat - 48) else none

/-- Exactly so many digits. -/
def digits? : Nat → List Char → Option (Nat × List Char)
  | 0, rest => some (0, rest)
  | n + 1, c :: rest => do
    let d ← digit? c
    let (v, rest) ← digits? n rest
    return (d * Nat.pow 10 n + v, rest)
  | _ + 1, [] => none

def mark? (c : Char) : List Char → Option (List Char)
  | [] => none
  | d :: rest => if c = d then some rest else none

def date? (s : List Char) : Option (Civil × List Char) := do
  let (year, s) ← digits? 4 s
  let s ← mark? '-' s
  let (month, s) ← digits? 2 s
  let s ← mark? '-' s
  let (day, s) ← digits? 2 s
  let c : Civil := ⟨year, month, day⟩
  if c.isValid then some (c, s) else none

/-- The digits after a decimal mark, as microseconds; further digits are cut off. -/
def fraction? : List Char → Option (Nat × List Char)
  | '.' :: s | ',' :: s =>
    let digits := s.takeWhile Char.isDigit
    if digits.isEmpty then none
    else
      let six := (digits ++ List.replicate 6 '0').take 6
      some (six.foldl (fun n c => 10 * n + (c.toNat - 48)) 0, s.dropWhile Char.isDigit)
  | s => some (0, s)

/-- Seconds and microseconds, both of which may be missing. -/
def seconds? : List Char → Option (Nat × Nat × List Char)
  | ':' :: s => do
    let (second, s) ← digits? 2 s
    let (micro, s) ← fraction? s
    return (second, micro, s)
  | s => some (0, 0, s)

/-- The offset at the end of a moment: none, `Z`, or a sign with hours and minutes. -/
def zone? : List Char → Option (Option Int)
  | [] => some none
  | [c] => if c = 'Z' ∨ c = 'z' then some (some 0) else none
  | c :: s => do
    let sign : Int ← if c = '+' then some 1 else if c = '-' ∨ c = '−' then some (-1) else none
    let (hours, s) ← digits? 2 s
    let s := (mark? ':' s).getD s
    let (minutes, s) ← digits? 2 s
    if s.isEmpty ∧ hours < 24 ∧ minutes < 60 then
      some (some (sign * (hours * 3600 + minutes * 60 : Nat) * 1000000))
    else none

def isSeparator (c : Char) : Bool := c == 'T' || c == 't' || c == ' ' || c == '_'

/-- A moment from its text. Its year may be 0. -/
def ofText? (text : List Char) : Option Moment := do
  let (date, s) ← date? text
  match s with
  | [] => some ⟨date, 0, 0, 0, 0, none⟩
  | c :: s =>
    if isSeparator c then
      let (hour, s) ← digits? 2 s
      let s ← mark? ':' s
      let (minute, s) ← digits? 2 s
      let (second, micro, s) ← seconds? s
      let offset ← zone? s
      if hour < 24 ∧ minute < 60 ∧ second < 60 then
        some ⟨date, hour, minute, second, micro, offset⟩
      else none
    else none

/-! ### Counts in texts -/

/-- A whole number, or a decimal with a point. What stands before the point has to fit in
64 bits. -/
def ofCountText? (text : List Char) : Option Moment :=
  let (negative, s) := match text with
    | '-' :: rest => (true, rest)
    | '+' :: rest => (false, rest)
    | s => (false, s)
  let whole := Double.digitsValue (s.takeWhile Char.isDigit)
  if s.isEmpty ∨ Nat.pow 2 63 ≤ whole then none
  else match s.dropWhile Char.isDigit with
    | [] => ofCount? (if negative then -whole else whole)
    | '.' :: _ => (Double.ofDecimalText? negative s).bind ofDouble?
    | _ => none

end Moment
end AgentGateway
