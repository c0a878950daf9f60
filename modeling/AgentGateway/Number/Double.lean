/-! Binary64 numbers, held as their 64 bits.

A finite double stands for a whole number of units, the unit being a power of
two that its exponent field names. Everything here is arithmetic on whole
numbers, so what is read, compared and written is decided without a floating
point unit. Reading a quotient of whole numbers takes the nearest double, a tie
going to the even neighbour. -/
namespace AgentGateway

structure Double where
  bits : UInt64
deriving DecidableEq, Inhabited, Repr

namespace Double

/-! ### Fields -/

def negative (d : Double) : Bool := d.bits.toNat / Nat.pow 2 63 == 1

def exponentField (d : Double) : Nat := d.bits.toNat / Nat.pow 2 52 % Nat.pow 2 11

def fractionField (d : Double) : Nat := d.bits.toNat % Nat.pow 2 52

def isFinite (d : Double) : Bool := d.exponentField != 2047

def isNaN (d : Double) : Bool := d.exponentField == 2047 && d.fractionField != 0

/-- How many units the magnitude of a finite double is. -/
def units (d : Double) : Nat :=
  if d.exponentField = 0 then d.fractionField else Nat.pow 2 52 + d.fractionField

/-- The power of two that one unit is, counted up from `2 ^ (-1074)`. -/
def scale (d : Double) : Nat := d.exponentField - 1

/-- The magnitude of a finite double as a quotient of whole numbers. -/
def ratio (d : Double) : Nat × Nat :=
  if 1074 ≤ d.scale then (d.units * Nat.pow 2 (d.scale - 1074), 1)
  else (d.units, Nat.pow 2 (1074 - d.scale))

/-! ### Making doubles -/

/-- Sign and magnitude bits. -/
def pack (negative : Bool) (magnitude : Nat) : Double :=
  ⟨UInt64.ofNat ((if negative then Nat.pow 2 63 else 0) + magnitude)⟩

def infinity (negative : Bool) : Double := pack negative (2047 * Nat.pow 2 52)

def nan : Double := ⟨0x7ff8000000000000⟩

/-- The whole number nearest to `num / den`, a tie going to the even one. -/
def roundHalfEven (num den : Nat) : Nat :=
  let q := num / den
  let twice := 2 * (num % den)
  if twice < den then q else if den < twice then q + 1 else q + q % 2

/-- The exponent of the unit in which `num / den` has 53 binary digits, counted
up from `2 ^ (-1074)` and never below it. -/
def unitExponent (num den : Nat) : Nat :=
  let guess := num.log2 + 1074 - 52 - den.log2
  if num.log2 + 1074 - 52 < den.log2 then 0
  else if num * Nat.pow 2 1074 < den * Nat.pow 2 (guess + 52) then guess - 1 else guess

/-- The double nearest to `num / den`; beyond the largest one, infinity. -/
def ofRatio (negative : Bool) (num den : Nat) : Double :=
  if num = 0 then pack negative 0
  else
    let e := unitExponent num den
    let magnitude := e * Nat.pow 2 52 + roundHalfEven (num * Nat.pow 2 1074) (den * Nat.pow 2 e)
    if 2047 * Nat.pow 2 52 ≤ magnitude then infinity negative else pack negative magnitude

/-- The double nearest to `digits · 10 ^ exponent`. A decimal far outside the
range is settled by its number of digits. -/
def ofDecimal (negative : Bool) (digits : Nat) (exponent : Int) : Double :=
  let size := exponent + (Nat.toDigits 10 digits).length
  if digits = 0 ∨ size < -400 then pack negative 0
  else if 400 < size then infinity negative
  else if 0 ≤ exponent then ofRatio negative (digits * Nat.pow 10 exponent.toNat) 1
  else ofRatio negative digits (Nat.pow 10 (-exponent).toNat)

/-- The double nearest to a whole number; `none` beyond the largest one. -/
def ofInt (n : Int) : Option Double :=
  let d := ofRatio (n < 0) n.natAbs 1
  if d.isFinite then some d else none

/-! ### Whole numbers among the doubles -/

def isZero (d : Double) : Bool := d.exponentField == 0 && d.fractionField == 0

/-- The whole part, toward zero. -/
def truncate (d : Double) : Int :=
  let n : Int := d.ratio.1 / d.ratio.2
  if d.negative then -n else n

/-- The largest whole number that is not above a double. -/
def floor (d : Double) : Int :=
  if d.negative ∧ d.ratio.1 % d.ratio.2 ≠ 0 then d.truncate - 1 else d.truncate

def isWhole (d : Double) : Bool := d.isFinite && d.ratio.1 % d.ratio.2 == 0

/-- The whole number that a double is, if it is one. -/
def toInt? (d : Double) : Option Int := if d.isWhole then some d.truncate else none

def one : Double := ⟨0x3ff0000000000000⟩

/-- The double nearest to the sum of two. -/
def add (a b : Double) : Double :=
  if !a.isFinite ∨ !b.isFinite then
    if a.isNaN ∨ b.isNaN ∨ (!a.isFinite ∧ !b.isFinite ∧ a.negative ≠ b.negative) then nan
    else if a.isFinite then b
    else a
  else if a.isZero ∧ b.isZero then pack (a.negative && b.negative) 0
  else
    let signed (d : Double) (num : Nat) : Int := if d.negative then -(num : Int) else num
    let (m, p) := a.ratio
    let (n, q) := b.ratio
    let sum := signed a (m * q) + signed b (n * p)
    ofRatio (sum < 0) sum.natAbs (p * q)

/-- The double nearest to one more. -/
def next (d : Double) : Double := d.add one

/-- Whether a whole number is less than a double. -/
def isAbove (n : Int) (d : Double) : Bool :=
  if d.isFinite then n < d.floor ∨ (n = d.floor ∧ !d.isWhole) else !d.isNaN && !d.negative

/-- The double that counting by ones arrives at. Up to `2 ^ 53` no step of it is rounded. -/
def ahead (d : Double) (n : Nat) : Double :=
  let exact := d.toInt?.filter fun m => n ≠ 0 && m.natAbs + n ≤ Nat.pow 2 53
  (exact.bind fun m => ofInt (m + n)).getD (n.repeat next d)

end Double
end AgentGateway
