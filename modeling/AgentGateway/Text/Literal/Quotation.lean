import AgentGateway.Text.Literal.Token

/-! What stands between quotes: plain characters and escapes.

Letters in front of the quotes say whether the text is one of bytes, whether it is taken as
it stands, and whether it is filled in. Texts in a row are one text, all of bytes or none. -/
namespace AgentGateway.Text.Literal

structure Quotation where
  isBytes : Bool
  /-- Whether escapes are taken as they stand. -/
  isRaw : Bool
  /-- Whether it has places to be filled in. -/
  isFilled : Bool
  inside : List Char
deriving DecidableEq, Repr

namespace Quotation

def isQuote (c : Char) : Bool := c == '\'' || c == '"'

/-- A quotation from its token. -/
def ofToken (t : List Char) : Quotation :=
  let marks := (t.takeWhile fun c => !isQuote c).map Char.toLower
  let quoted := t.drop marks.length
  let size := if 6 ≤ quoted.length ∧ quoted[0]? = quoted[1]? ∧ quoted[0]? = quoted[2]? then 3 else 1
  ⟨marks.contains 'b', marks.contains 'r', marks.contains 'f',
    (quoted.drop size).take (quoted.length - 2 * size)⟩

/-! ### Escapes -/

/-- The place of the first escape that does not name a byte, `n` being the place of the
first character. -/
def byteFault? (n : Nat) : List Char → Option Nat
  | [] => none
  | '\\' :: 'x' :: rest =>
    match rest with
    | a :: b :: more => if isHexDigit a && isHexDigit b then byteFault? (n + 4) more else some n
    | _ => some n
  | '\\' :: _ :: rest => byteFault? (n + 2) rest
  | _ :: rest => byteFault? (n + 1) rest

/-- A text with an escape of ten signs for every character beyond ASCII. A backslash in
front of one is escaped as well. -/
def spelled : List Char → List Char
  | [] => []
  | '\\' :: c :: rest =>
    if c.toNat < 128 then '\\' :: c :: spelled rest else "\\u005c".toList ++ spelled (c :: rest)
  | c :: rest =>
    if c.toNat < 128 then c :: spelled rest else '\\' :: 'U' :: hex 8 c.toNat ++ spelled rest
termination_by s => s.length

/-- A stretch of a text that names no character, and why. -/
structure EscapeFault where
  first : Nat
  last : Nat
  reason : String
deriving DecidableEq, Repr

def EscapeFault.text (f : EscapeFault) : String :=
  let place := if f.first = f.last then s!"byte 0x5c in position {f.first}"
    else s!"bytes in position {f.first}-{f.last}"
  s!"(unicode error) 'unicodeescape' codec can't decode {place}: {f.reason}"

/-- The value of hexadecimal digits. -/
def hexNumber (ds : List Char) : Nat :=
  ds.foldl (fun n c => 16 * n + (if c.isDigit then c.toNat - 48 else c.toLower.toNat - 87)) 0

/-- What is wrong with a numbered escape of so many digits, `s` being what follows its
letter. -/
def numberFault? (n count : Nat) (shown : String) (s : List Char) : Option EscapeFault :=
  let digits := (s.take count).takeWhile isHexDigit
  if digits.length < count then some ⟨n, n + 1 + digits.length, s!"truncated {shown} escape"⟩
  else if 0x10ffff < hexNumber digits then some ⟨n, n + 1 + count, "illegal Unicode character"⟩
  else none

/-- What is wrong with an escape by name. -/
def nameFault? (n : Nat) (s : List Char) : Option EscapeFault :=
  let malformed (last : Nat) : Option EscapeFault := some ⟨n, last, "malformed \\N character escape"⟩
  match s with
  | '\x7b' :: rest =>
    let name := rest.takeWhile (· != '\x7d')
    if name.length = rest.length then malformed (n + 2 + rest.length)
    else if name.isEmpty then malformed (n + 2)
    else some ⟨n, n + 3 + name.length, "unknown Unicode character name"⟩
  | _ => malformed (n + 1)

/-- The first escape that names no character. -/
def characterFault? (n : Nat) : List Char → Option EscapeFault
  | [] => none
  | '\\' :: c :: rest =>
    let fault := match c with
      | 'x' => numberFault? n 2 "\\xXX" rest
      | 'u' => numberFault? n 4 "\\uXXXX" rest
      | 'U' => numberFault? n 8 "\\UXXXXXXXX" rest
      | 'N' => nameFault? n rest
      | _ => none
    fault.or (characterFault? (n + 2) rest)
  | _ :: rest => characterFault? (n + 1) rest

/-- What is wrong with a text that escapes are read in. -/
def textFault? (s : List Char) : Option String := (characterFault? 0 (spelled s)).map EscapeFault.text

/-- What is wrong with a quotation. What is to be filled in is not looked at. -/
def fault? (q : Quotation) : Option String :=
  if q.isBytes then
    if q.inside.any fun c => 128 ≤ c.toNat then some "bytes can only contain ASCII literal characters"
    else if q.isRaw then none
    else (byteFault? 0 q.inside).map fun n => s!"(value error) invalid \\x escape at position {n}"
  else if q.isRaw || q.isFilled then none
  else textFault? q.inside

end Quotation
end AgentGateway.Text.Literal
