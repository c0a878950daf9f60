import AgentGateway.Number.Double

/-! The shortest decimal that reads back as a given double.

The reals that round to a finite double form an interval around it, its ends
included when the double's unit count is even. On the grid of decimals with `n`
digits only the two neighbours of the double need a test: if any point of the
grid lies in the interval, so does one of them. The first grid with a hit gives
the digits, and of two hits the nearer.

`Double.text` writes these digits with a point when the leading digit's place is
between `10 ^ (-4)` and `10 ^ 15`, and with an exponent of at least two digits
outside of that range. -/
namespace AgentGateway.Double

/-- A positive decimal `digits · 10 ^ exponent`. -/
structure Decimal where
  digits : Nat
  exponent : Int
deriving DecidableEq, Repr

/-- A value with the ends of its rounding interval, over one denominator. -/
structure Interval where
  low : Nat
  value : Nat
  high : Nat
  den : Nat
  closed : Bool

/-- The interval of a positive finite double. Below a power of two the spacing is
half as wide. -/
def interval (d : Double) : Interval :=
  let (num, den) := d.ratio
  let unit := if 1074 ≤ d.scale then Nat.pow 2 (d.scale - 1074) else 1
  let below := if d.fractionField = 0 ∧ 1 < d.exponentField then unit else 2 * unit
  { low := 4 * num - below, value := 4 * num, high := 4 * num + 2 * unit, den := 4 * den
    closed := d.units % 2 == 0 }

/-- Whether `num / den` lies in the interval. -/
def Interval.holds (i : Interval) (num den : Nat) : Bool :=
  let a := num * i.den
  if i.closed then i.low * den ≤ a && a ≤ i.high * den
  else i.low * den < a && a < i.high * den

/-- The place of the leading decimal digit of `num / den`. -/
def leadingPlace (num den : Nat) : Int :=
  if den ≤ num then (Nat.toDigits 10 (num / den)).length - 1
  else - ((Nat.toDigits 10 ((den - 1) / num)).length : Int)

/-- The better neighbour of the value on the grid of multiples of `10 ^ place`. -/
def Interval.onGrid? (i : Interval) (place : Int) : Option Decimal :=
  let num := if 0 ≤ place then i.value else i.value * Nat.pow 10 (-place).toNat
  let den := if 0 ≤ place then i.den * Nat.pow 10 place.toNat else i.den
  let under := num / den
  let rest := num % den
  let ratioOf (n : Nat) : Nat × Nat :=
    if 0 ≤ place then (n * Nat.pow 10 place.toNat, 1) else (n, Nat.pow 10 (-place).toNat)
  let hit (n : Nat) : Bool := n != 0 && i.holds (ratioOf n).1 (ratioOf n).2
  let nearer := if 2 * rest < den ∨ (2 * rest = den ∧ under % 2 = 0) then under else under + 1
  if hit nearer then some ⟨nearer, place⟩
  else if hit under then some ⟨under, place⟩
  else if hit (under + 1) then some ⟨under + 1, place⟩
  else none

/-- The first hit on grids that grow finer. -/
def Interval.search (i : Interval) (place : Int) : Nat → Decimal
  | 0 => ⟨0, 0⟩
  | fuel + 1 => (i.onGrid? place).getD (i.search (place - 1) fuel)

/-- Seventeen digits always suffice. -/
def shortest (d : Double) : Decimal :=
  let i := d.interval
  i.search (leadingPlace i.value i.den) 18

/-! ### The written form -/

/-- Drop the zeros at the end of a list of digits. -/
def trimZeros (digits : List Char) : List Char :=
  (digits.reverse.dropWhile (· == '0')).reverse

def zeros (n : Nat) : List Char := List.replicate n '0'

/-- The exponent of a decimal in scientific form. -/
def exponentText (e : Int) : List Char :=
  let digits := Nat.toDigits 10 e.natAbs
  (if e < 0 then '-' else '+') :: (zeros (2 - digits.length) ++ digits)

/-- Digits with the leading one at the place `10 ^ place`. -/
def place (digits : List Char) (place : Int) : List Char :=
  if place < -4 ∨ 16 ≤ place then
    let mantissa := match digits with
      | [] => []
      | [d] => [d]
      | d :: rest => d :: '.' :: rest
    mantissa ++ 'e' :: exponentText place
  else if place < 0 then '0' :: '.' :: (zeros ((-place).toNat - 1) ++ digits)
  else
    let whole := place.toNat + 1
    let padded := digits ++ zeros (whole - digits.length)
    let rest := padded.drop whole
    padded.take whole ++ '.' :: (if rest.isEmpty then ['0'] else rest)

/-- A double's text: the shortest decimal that reads back. -/
def text (d : Double) : String :=
  if d.isNaN then "nan"
  else
    let sign := if d.negative then ['-'] else []
    String.ofList <| sign ++
      if !d.isFinite then "inf".toList
      else if d.isZero then "0.0".toList
      else
        let s := d.shortest
        let digits := Nat.toDigits 10 s.digits
        place (trimZeros digits) (s.exponent + (digits.length - 1 : Nat))

end AgentGateway.Double
