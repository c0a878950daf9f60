import AgentGateway.Text.Quoted
import AgentGateway.Time.Moment

/-! Moments from the texts of ISO 8601.

A date is a day of a month or of a week, with or without hyphens; any one character
stands between it and the time of day, which may end after the hour, the minute or
the second, with or without colons, and may have a fraction. An offset follows in
the same form, or a `Z`.

What is wrong with a text is told apart: one that has none of these forms is
malformed, one that names a month, a day, a time or an offset that does not exist
says which. -/
namespace AgentGateway.IsoText

inductive Fault where
  | malformed (text : String)
  | year (n : Int)
  | month
  | day
  | hour
  | minute
  | second
  /-- The offset's length in seconds is a day or more. -/
  | offset (length : String)
deriving DecidableEq, Repr

def Fault.text : Fault → String
  | malformed s => s!"Invalid isoformat string: {Text.quoted s}"
  | year n => s!"year {n} is out of range"
  | month => "month must be in 1..12"
  | day => "day is out of range for month"
  | hour => "hour must be in 0..23"
  | minute => "minute must be in 0..59"
  | second => "second must be in 0..59"
  | offset length => "offset must be a timedelta strictly between -timedelta(hours=24) and " ++
      s!"timedelta(hours=24), not {length}."

/-! ### Bytes

A text is read as its encoding: of a character beyond ASCII there are as many copies as it
has bytes. -/

/-- The places of the character between a date and a time. -/
def separatorPlaces : List Nat := [7, 8, 10]

/-- The code points of a text. A surrogate that may stand between date and time is taken as
a letter there. -/
def sanitized (s : List Char) : List Nat :=
  let codes := Text.codes s
  match separatorPlaces.find? fun n => codes[n]?.any Text.isSurrogate with
  | some n => codes.set n 'T'.toNat
  | none => codes

/-- The bytes of a text, if it has an encoding. -/
def bytes? (s : List Char) : Option (List Char) :=
  let codes := sanitized s
  if codes.any Text.isSurrogate then none
  else some (codes.flatMap fun n => List.replicate (Char.ofNat n).utf8Size (Char.ofNat n))

/-! ### Dates -/

/-- Where the date of a text ends. Behind `YYYY-Www-` two digits are a time that the
hyphen separates, one digit is a day of the week; behind `YYYYWww` an odd number of
digits begins with the day. -/
def dateLength (s : List Char) : Nat :=
  let isDigitAt (n : Nat) : Bool := (s[n]?.map Char.isDigit).getD false
  if s.length = 7 then 7
  else if s[4]? = some '-' then
    if s[5]? = some 'W' then
      if s[8]? = some '-' ∧ !(10 < s.length ∧ isDigitAt 10) then 10 else 8
    else 10
  else if s[4]? = some 'W' then
    let run := ((s.drop 7).takeWhile Char.isDigit).length
    if run < 2 then 7 + run else if run % 2 = 1 then 7 else 8
  else 8

/-- The days of a week run from Monday, 1, to Sunday, 7. -/
def weekday (c : Civil) : Nat := (Int.emod (c.toDays + 3) 7).toNat + 1

/-- The Monday of a year's first week, which is the week that holds the fourth of January. -/
def firstMonday (year : Int) : Int :=
  let fourth : Civil := ⟨year, 1, 4⟩
  fourth.toDays - (weekday fourth - 1 : Nat)

/-- A year has 53 weeks if it begins on a Thursday, or on a Wednesday in a leap year. -/
def hasLongYear (year : Int) : Bool :=
  let first := weekday ⟨year, 1, 1⟩
  first == 4 || (first == 3 && Civil.isLeap year)

def ofWeek? (year : Int) (week day : Nat) : Option Civil :=
  if week = 0 ∨ 53 < week ∨ (week = 53 ∧ !(1 ≤ year ∧ hasLongYear year)) ∨ day = 0 ∨ 7 < day then none
  else if year = 0 then some ⟨1, 0, 1⟩
  else some (Civil.ofDays (firstMonday year + ((week - 1) * 7 + day - 1 : Nat)))

def weekDate? (year : Int) (hyphens : Bool) (s : List Char) : Option Civil := do
  let (week, s) ← Moment.digits? 2 s
  if s.isEmpty then ofWeek? year week 1
  else
    let s ← if hyphens then Moment.mark? '-' s else some s
    let (day, _) ← Moment.digits? 1 s
    ofWeek? year week day

def date? (s : List Char) : Option Civil := do
  let (year, s) ← Moment.digits? 4 s
  let hyphens := s.head? == some '-'
  let s := if hyphens then s.drop 1 else s
  match s with
  | 'W' :: s => weekDate? year hyphens s
  | s =>
    let (month, s) ← Moment.digits? 2 s
    let s ← if hyphens then Moment.mark? '-' s else some s
    let (day, _) ← Moment.digits? 2 s
    return ⟨year, month, day⟩

/-! ### Times of day -/

/-- Hour, minute, second and microsecond. -/
structure Clock where
  hour : Nat
  minute : Nat
  second : Nat
  micro : Nat

def Clock.ofParts (parts : List Nat) (micro : Nat) : Clock :=
  ⟨parts[0]?.getD 0, parts[1]?.getD 0, parts[2]?.getD 0, micro⟩

/-- A fraction: its first six characters are digits, and further digits are cut off.
The flag says whether the text goes on behind it. -/
def fraction? (s : List Char) : Option (Nat × Bool) := do
  if s.isEmpty then none
  let (n, _) ← Moment.digits? (min 6 s.length) s
  return (n * Nat.pow 10 (6 - min 6 s.length),
    ((s.drop 6).dropWhile Char.isDigit).head?.any (· != '\x00'))

/-- Up to three pairs of digits, then a fraction. Colons stand between all pairs or
between none; one may also stand for the point. The flag says whether the text goes
on behind what has been read, for which an empty character does not count. -/
def clockFrom? (parts : List Nat) (colons : Bool) : Nat → List Char → Option (Clock × Bool)
  | 0, s => do
    let (micro, more) ← fraction? s
    return (.ofParts parts micro, more)
  | n + 1, s => do
    let (part, s) ← Moment.digits? 2 s
    let parts := parts ++ [part]
    match s with
    | [] => return (.ofParts parts 0, false)
    | c :: rest =>
      let colons := if parts.length = 1 then c == ':' else colons
      if rest.isEmpty then return (.ofParts parts 0, c != '\x00')
      else if colons ∧ c = ':' then clockFrom? parts colons n rest
      else if c = '.' ∨ c = ',' then clockFrom? parts colons 0 rest
      else if colons then none
      else clockFrom? parts colons n (c :: rest)

def clock? (s : List Char) : Option (Clock × Bool) := clockFrom? [] true 3 s

/-- A time of day with the offset behind it, in seconds and microseconds. -/
def time? (s : List Char) : Option (Clock × Option (Int × Int)) := do
  let isSign (c : Char) : Bool := c == '+' || c == '-' || c == 'Z'
  let (clock, more) ← clock? (s.takeWhile fun c => !isSign c)
  match s.dropWhile fun c => !isSign c with
  | [] => if more then none else some (clock, none)
  | 'Z' :: rest => if rest.isEmpty then some (clock, some (0, 0)) else none
  | sign :: rest =>
    let (offset, more) ← clock? rest
    if more then none
    else
      let sign : Int := if sign = '-' then -1 else 1
      let seconds : Nat := offset.hour * 3600 + offset.minute * 60 + offset.second
      some (clock, some (sign * seconds, sign * offset.micro))

/-! ### Moments -/

/-- A length of a day or more, which no offset has. -/
def isDayLong (offset : Int) : Bool := 86400 * 1000000 ≤ offset.natAbs

/-- The moment, if all its parts exist. -/
def checked (date : Civil) (clock : Clock) (offset : Option Int) : Except Fault Moment :=
  if date.year < 1 ∨ 9999 < date.year then .error (.year date.year)
  else if date.month < 1 ∨ 12 < date.month then .error .month
  else if !date.isValid then .error .day
  else if 23 < clock.hour then .error .hour
  else if 59 < clock.minute then .error .minute
  else if 59 < clock.second then .error .second
  else .ok ⟨date, clock.hour, clock.minute, clock.second, clock.micro, offset⟩

/-- A moment from its text. An offset of no whole second is none at all. -/
def read (durationText : Int → String) (text : String) : Except Fault Moment :=
  let s := (bytes? text.toList).getD []
  let cut := dateLength s
  let separator := (s[cut]?.map Char.utf8Size).getD 0
  let time :=
    if s.length ≤ cut then some (Clock.ofParts [] 0, none) else time? (s.drop (cut + separator))
  match date? (s.take cut), time with
  | some date, some (clock, offset) =>
    let offset := offset.map fun o => if o.1 = 0 then 0 else o.1 * 1000000 + o.2
    match offset.filter isDayLong with
    | some o => .error (.offset (durationText o))
    | none => checked date clock offset
  | _, _ => .error (.malformed text)

end AgentGateway.IsoText
