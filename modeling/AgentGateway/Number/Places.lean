import AgentGateway.Number.Shortest

/-! Doubles with a chosen number of digits: so many places behind the point, so many
behind the leading digit, or so many in all. Every form is the nearest decimal of
its kind, a tie going to the even one. The sign is left to the caller. -/
namespace AgentGateway.Double

/-- A number with zeros in front up to a count of digits. -/
def digitsOf (count n : Nat) : List Char :=
  let digits := Nat.toDigits 10 n
  zeros (count - digits.length) ++ digits

/-- Digits with a point before the last `places`; a bare point only when asked for. -/
def pointed (barePoint : Bool) (places : Nat) (digits : List Char) : List Char :=
  let whole := digits.length - places
  digits.take whole ++
    if places = 0 then (if barePoint then ['.'] else []) else '.' :: digits.drop whole

/-- So many places behind the point. -/
def fixed (barePoint : Bool) (places : Nat) (d : Double) : List Char :=
  let n := roundHalfEven (d.ratio.1 * Nat.pow 10 places) d.ratio.2
  pointed barePoint places (digitsOf (places + 1) n)

/-- `num / den` in units of `10 ^ place`. -/
def inUnitsOf (num den : Nat) (place : Int) : Nat :=
  if 0 ≤ place then roundHalfEven num (den * Nat.pow 10 place.toNat)
  else roundHalfEven (num * Nat.pow 10 (-place).toNat) den

/-- The first `count` digits, with the place of the leading one. -/
def significant (count : Nat) (d : Double) : List Char × Int :=
  let (num, den) := d.ratio
  if num = 0 then (zeros count, 0)
  else
    let place := leadingPlace num den
    let n := inUnitsOf num den (place - (count - 1 : Nat))
    if n < Nat.pow 10 count then (digitsOf count n, place) else ('1' :: zeros (count - 1), place + 1)

/-- A leading digit, so many places behind it, and an exponent. -/
def scientific (barePoint : Bool) (places : Nat) (d : Double) : List Char :=
  let (digits, place) := d.significant (places + 1)
  pointed barePoint places digits ++ 'e' :: exponentText place

/-- So many digits in all, with an exponent where the point would be far off. Zeros at
the end are dropped unless they are asked for. -/
def general (keepZeros : Bool) (count : Nat) (d : Double) : List Char :=
  let count := max count 1
  let (digits, place) := d.significant count
  if place < -4 ∨ (count : Int) ≤ place then
    let kept := if keepZeros then digits else trimZeros digits
    let kept := if kept.isEmpty then ['0'] else kept
    pointed keepZeros (kept.length - 1) kept ++ 'e' :: exponentText place
  else if place < 0 then
    let shown := zeros ((-place).toNat - 1) ++ digits
    let kept := if keepZeros then shown else trimZeros shown
    pointed keepZeros kept.length ('0' :: kept)
  else
    let whole := place.toNat + 1
    let fraction := digits.drop whole
    let kept := if keepZeros then fraction else trimZeros fraction
    pointed keepZeros kept.length (digits.take whole ++ kept)

end AgentGateway.Double
