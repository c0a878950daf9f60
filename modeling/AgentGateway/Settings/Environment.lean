import AgentGateway.Failure
import AgentGateway.Text.Encoding

/-! The variables of an environment.

An environment holds bytes. Bytes that are no character are told as the surrogates from
`0xdc80` on; where some of them that were told one by one make up a character, it is that
character which is read back. A name is not empty and has no `=`; neither a name nor a
value has a null in it. -/
namespace AgentGateway.Settings

abbrev Environment := Keyed String

namespace Environment
open Text

/-- The surrogate of a byte that is no character. -/
def isLoneByte (n : Nat) : Bool := 0xdc80 ≤ n && n < 0xdd00

/-- The character that the first bytes of a row make up, with their number. -/
def firstCharacter? (bytes : List Nat) : Option (Nat × Nat) :=
  [2, 3, 4].findSome? fun count =>
    if bytes.length < count then none
    else match (utf8? (bytes.take count)).map codes with
      | some [n] => if isSurrogate n then none else some (n, count)
      | _ => none

/-- Code points with the characters that lone bytes make up. So many bytes belong to the
character before. -/
def joined : Nat → List Nat → List Nat
  | _, [] => []
  | skip + 1, _ :: rest => joined skip rest
  | 0, n :: rest =>
    match firstCharacter? (((n :: rest).takeWhile isLoneByte).map (· - 0xdc00)) with
    | some (c, count) => c :: joined (count - 1) rest
    | none => n :: joined 0 rest

/-- A text as it is read back. -/
def stored (s : String) : String := String.ofList (spellAll (joined 0 (codes s.toList)))

/-- What keeps a text from being bytes: the first surrogates of another kind. -/
def encodingFault? (s : String) : Option EncodingFault :=
  let ns := codes s.toList
  let before := ns.takeWhile fun n => !isSurrogate n || isLoneByte n
  let rest := ns.drop before.length
  rest.head?.map fun code => ⟨code, before.length, (rest.takeWhile isSurrogate).length⟩

/-- The name or the value of a variable. -/
def textOf : Value → Except Misuse String
  | .text s => match encodingFault? s with
    | some f => .error (.unencodable f)
    | none => .ok s
  | v => .error (.textExpected v.kindName)

/-- Set a variable. -/
def assign (e : Environment) (name : String) (value : Value) : Except Misuse Environment := do
  let name ← textOf (.text name)
  let value ← textOf value
  if name.contains '\x00' ∨ value.contains '\x00' then throw .nullInVariable
  if name.contains '=' then throw .variableName
  if name.isEmpty then throw .emptyVariableName
  return e.put (stored name) (stored value)

end Environment
end AgentGateway.Settings
