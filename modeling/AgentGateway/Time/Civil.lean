/-! Days of the Gregorian calendar, counted from the first of January 1970.

Years are taken from March to February, so that a leap day ends its year. -/
namespace AgentGateway

/-- A calendar date; `month` and `day` count from one. -/
structure Civil where
  year : Int
  month : Nat
  day : Nat
deriving DecidableEq, Repr

namespace Civil

def isLeap (year : Int) : Bool := (year % 4 == 0 && year % 100 != 0) || year % 400 == 0

def monthLength (year : Int) (month : Nat) : Nat :=
  if month = 2 then (if isLeap year then 29 else 28)
  else if month = 4 ∨ month = 6 ∨ month = 9 ∨ month = 11 then 30
  else 31

/-- Whether the month and the day exist in a date's year. -/
def isValid (c : Civil) : Bool :=
  1 ≤ c.month && c.month ≤ 12 && 1 ≤ c.day && c.day ≤ monthLength c.year c.month

/-- Days since the first of January 1970. -/
def toDays (c : Civil) : Int :=
  let year := if c.month ≤ 2 then c.year - 1 else c.year
  let era := Int.fdiv year 400
  let ofEra := year - era * 400
  let month : Int := if c.month ≤ 2 then c.month + 9 else c.month - 3
  let ofYear := (153 * month + 2) / 5 + c.day - 1
  era * 146097 + (ofEra * 365 + ofEra / 4 - ofEra / 100 + ofYear) - 719468

def ofDays (days : Int) : Civil :=
  let shifted := days + 719468
  let era := Int.fdiv shifted 146097
  let ofEra := shifted - era * 146097
  let yearOfEra := (ofEra - ofEra / 1460 + ofEra / 36524 - ofEra / 146096) / 365
  let ofYear := ofEra - (365 * yearOfEra + yearOfEra / 4 - yearOfEra / 100)
  let month := (5 * ofYear + 2) / 153
  let day := ofYear - (153 * month + 2) / 5 + 1
  let civilMonth := if month < 10 then month + 3 else month - 9
  { year := yearOfEra + era * 400 + (if civilMonth ≤ 2 then 1 else 0)
    month := civilMonth.toNat
    day := day.toNat }

end Civil
end AgentGateway
