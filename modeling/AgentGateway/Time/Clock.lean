import AgentGateway.Time.Moment

/-! The count of seconds on a clock, as lines of a log show it.

A year is written with no more digits than it has. A count may lie so far out that it
is no time of day at all; the years of a calendar end earlier. -/
namespace AgentGateway

inductive ClockFault where
  | notNumber
  /-- More seconds than are counted. -/
  | beyondCount
  /-- A year that is too large to be told. -/
  | beyondYears
  | year (n : Int)
deriving DecidableEq, Repr

namespace ClockFault

def name : ClockFault → String
  | notNumber => "ValueError"
  | beyondCount => "OverflowError"
  | beyondYears => "OSError"
  | year _ => "ValueError"

def text : ClockFault → String
  | notNumber => "Invalid value NaN (not a number)"
  | beyondCount => "timestamp out of range for platform time_t"
  | beyondYears => "[Errno 75] Value too large for defined data type"
  | year n => s!"year {n} is out of range"

end ClockFault

namespace Clock

/-- How far seconds are counted, in both directions. -/
def mostSeconds : Nat := Nat.pow 2 63

/-- Years are told by their distance from 1900. -/
def isToldYear (year : Int) : Bool := -(Nat.pow 2 31 : Int) ≤ year - 1900 && year - 1900 < Nat.pow 2 31

/-- The moment that a whole number of seconds and some microseconds stand for. -/
def told (seconds : Int) (micro : Nat) : Except ClockFault Moment :=
  if seconds < -(mostSeconds : Int) ∨ mostSeconds ≤ seconds then .error .beyondCount
  else
    let m := Moment.ofUtc seconds micro
    if isToldYear m.date.year then .ok m else .error .beyondYears

/-- What a count that is no finite number is. -/
def unfinished? (d : Double) : Option ClockFault :=
  if d.isNaN then some .notNumber else if d.isFinite then none else some .beyondCount

def written (m : Moment) : List Char := (toString m.date.year).toList ++ m.ofYear ' '

/-- Time to the second, what is left of it being cut off. -/
def toSecond (d : Double) : Except ClockFault String :=
  match unfinished? d with
  | some f => .error f
  | none => (told d.floor 0).map fun m => String.ofList (written m)

/-- Time to the millisecond, on the years of a calendar: the nearest microsecond, of
which the last three digits are cut off. -/
def toMillisecond (d : Double) : Except ClockFault String := do
  if let some f := unfinished? d then
    throw f
  let micros := Moment.clockMicros d
  let m ← told (Int.fdiv micros 1000000) (Int.fmod micros 1000000).toNat
  if m.date.year < 1 ∨ 9999 < m.date.year then .error (.year m.date.year)
  else return String.ofList (written m ++ '.' :: Moment.padded 3 (m.micro / 1000))

end Clock
end AgentGateway
