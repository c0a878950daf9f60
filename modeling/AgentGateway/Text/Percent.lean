import AgentGateway.Text.Casing
import AgentGateway.Text.Quoted

/-! Percent encoding, and the names that need none.

A text is written byte by byte in UTF-8; Latin letters, digits and `_`, `.`, `-`,
`~` stand for themselves and every other byte for its number. -/
namespace AgentGateway.Text

/-- The characters that stand for themselves in every part of an address. -/
def isUnreserved (c : Char) : Bool :=
  c.isAlphanum || c == '_' || c == '.' || c == '-' || c == '~'

/-- The bytes of a code point in UTF-8. -/
def utf8Bytes (n : Nat) : List Nat :=
  if n < 0x80 then [n]
  else if n < 0x800 then [0xc0 + n / 64, 0x80 + n % 64]
  else if n < 0x10000 then [0xe0 + n / 4096, 0x80 + n / 64 % 64, 0x80 + n % 64]
  else [0xf0 + n / 262144, 0x80 + n / 4096 % 64, 0x80 + n / 64 % 64, 0x80 + n % 64]

/-- A byte's number between a percent sign and the next character. -/
def percentByte (b : Nat) : List Char := '%' :: (hex 2 b).map Char.toUpper

def percentCode (n : Nat) : List Char :=
  if n < 128 ∧ isUnreserved (Char.ofNat n) then [Char.ofNat n]
  else (utf8Bytes n).flatMap percentByte

def percentEncode (s : String) : String := String.ofList ((codes s.toList).flatMap percentCode)

/-- Whether a text is its own percent encoding, letter case aside. -/
def needsNoEncoding (s : String) : Bool := lower (percentEncode s) == lower s

end AgentGateway.Text
