import AgentGateway.Text.CodePoint

/-! Texts from bytes in UTF-8, UTF-16 or UTF-32.

Which of them is used is told by a byte order mark, or else by which of the first
bytes are zero. Surrogates may stand alone; any other bytes that are no character
refuse the text. -/
namespace AgentGateway.Text

def isTail (b : Nat) : Bool := 0x80 ≤ b && b < 0xc0

/-- A code point in front of a text, if it is one. -/
def before? (n : Nat) (rest : Option (List Char)) : Option (List Char) :=
  if n < 0x110000 then rest.map (spell n ++ ·) else none

def utf8? : List Nat → Option (List Char)
  | [] => some []
  | a :: rest =>
    if a < 0x80 then (utf8? rest).map (Char.ofNat a :: ·)
    else match rest with
      | b :: rest =>
        if 0xc2 ≤ a ∧ a < 0xe0 ∧ isTail b then
          (utf8? rest).map (Char.ofNat ((a - 0xc0) * 64 + (b - 0x80)) :: ·)
        else match rest with
          | c :: rest =>
            if 0xe0 ≤ a ∧ a < 0xf0 ∧ isTail b ∧ isTail c ∧ (a ≠ 0xe0 ∨ 0xa0 ≤ b) then
              before? ((a - 0xe0) * 4096 + (b - 0x80) * 64 + (c - 0x80)) (utf8? rest)
            else match rest with
              | d :: rest =>
                if 0xf0 ≤ a ∧ a < 0xf5 ∧ isTail b ∧ isTail c ∧ isTail d ∧ (a ≠ 0xf0 ∨ 0x90 ≤ b) then
                  before? ((a - 0xf0) * 262144 + (b - 0x80) * 4096 + (c - 0x80) * 64 + (d - 0x80))
                    (utf8? rest)
                else none
              | [] => none
          | [] => none
      | [] => none

/-- Which end of a number comes first. -/
inductive ByteOrder where
  | big
  | little
deriving DecidableEq, Repr

def pairValue (o : ByteOrder) (a b : Nat) : Nat :=
  match o with
  | .big => a * 256 + b
  | .little => b * 256 + a

def units16? (o : ByteOrder) : List Nat → Option (List Nat)
  | [] => some []
  | [_] => none
  | a :: b :: rest => (units16? o rest).map (pairValue o a b :: ·)

/-- Code points of sixteen bit units, surrogates joined in pairs. -/
def ofUnits16 : List Nat → List Char
  | [] => []
  | [u] => spell u
  | u :: v :: rest =>
    if isHighSurrogate u && isLowSurrogate v then spell (pairCode u v) ++ ofUnits16 rest
    else spell u ++ ofUnits16 (v :: rest)

def utf16? (o : ByteOrder) (bytes : List Nat) : Option (List Char) := (units16? o bytes).map ofUnits16

def utf32? (o : ByteOrder) : List Nat → Option (List Char)
  | [] => some []
  | a :: b :: c :: d :: rest =>
    let n := match o with
      | .big => pairValue o a b * 65536 + pairValue o c d
      | .little => pairValue o c d * 65536 + pairValue o a b
    before? n (utf32? o rest)
  | _ => none

/-- The text of a JSON document's bytes. -/
def decode? (bytes : List Nat) : Option (List Char) :=
  match bytes with
  | 0x00 :: 0x00 :: 0xfe :: 0xff :: rest => utf32? .big rest
  | 0xff :: 0xfe :: 0x00 :: 0x00 :: rest => utf32? .little rest
  | 0xfe :: 0xff :: rest => utf16? .big rest
  | 0xff :: 0xfe :: rest => utf16? .little rest
  | 0xef :: 0xbb :: 0xbf :: rest => utf8? rest
  | a :: b :: c :: d :: rest =>
    let all := a :: b :: c :: d :: rest
    if a = 0 then (if b = 0 then utf32? .big all else utf16? .big all)
    else if b = 0 then (if c = 0 ∧ d = 0 then utf32? .little all else utf16? .little all)
    else utf8? all
  | [a, b] =>
    if a = 0 then utf16? .big [a, b] else if b = 0 then utf16? .little [a, b] else utf8? [a, b]
  | bytes => utf8? bytes

end AgentGateway.Text
