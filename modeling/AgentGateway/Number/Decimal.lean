import AgentGateway.Number.Double

/-! Doubles from decimal texts. -/
namespace AgentGateway.Double

/-- The number that some digits are. -/
def digitsValue (digits : List Char) : Nat := digits.foldl (fun n c => 10 * n + (c.toNat - 48)) 0

/-- The exponent in front of which an `e` stands: digits, after a sign if there is one. -/
def exponent? (s : List Char) : Option Int :=
  let (minus, digits) := match s with
    | '-' :: ds => (true, ds)
    | '+' :: ds => (false, ds)
    | ds => (false, ds)
  if digits.isEmpty ∨ !digits.all Char.isDigit then none
  else some (if minus then -(digitsValue digits) else digitsValue digits)

/-- A decimal: digits with at most one point, at least one digit, and an optional
exponent. -/
def ofDecimalText? (negative : Bool) (s : List Char) : Option Double :=
  let whole := s.takeWhile Char.isDigit
  let (places, rest) := match s.dropWhile Char.isDigit with
    | '.' :: more => (more.takeWhile Char.isDigit, more.dropWhile Char.isDigit)
    | rest => ([], rest)
  let value (e : Int) : Double :=
    .ofDecimal negative (digitsValue (whole ++ places)) (e - places.length)
  if whole.isEmpty ∧ places.isEmpty then none
  else match rest with
    | [] => some (value 0)
    | c :: more => if c = 'e' ∨ c = 'E' then (exponent? more).map value else none

end AgentGateway.Double
