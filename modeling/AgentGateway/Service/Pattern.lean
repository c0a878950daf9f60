/-! The paths that a route stands for.

A route is written as a path in which `{name}` or `{name:kind}` leaves a part open: any
text without a slash, any text at all, a whole number, a number, or a unique identifier.
Every other character stands for itself. A path belongs to a route if the whole of it
can be read so; a line break at its very end is not counted. -/
namespace AgentGateway

/-- What an open part of a route may hold. -/
inductive SlotKind where
  | segment
  | path
  | whole
  | number
  | unique
deriving DecidableEq, Repr

namespace SlotKind

def names : List (String × SlotKind) :=
  [("str", segment), ("path", path), ("int", whole), ("float", number), ("uuid", unique)]

def isHexDigit (c : Char) : Bool :=
  c.isDigit || ('a' ≤ c && c ≤ 'f') || ('A' ≤ c && c ≤ 'F')

def isDigits (s : List Char) : Bool := !s.isEmpty && s.all Char.isDigit

/-- Groups of hexadecimal digits of given sizes, between which a hyphen may stand. -/
def isGroups : List Nat → List Char → Bool
  | [], s => s.isEmpty
  | n :: sizes, s =>
    let group := s.take n
    let rest := match s.drop n, sizes with
      | '-' :: rest, _ :: _ => rest
      | rest, _ => rest
    group.length == n && group.all isHexDigit && isGroups sizes rest

/-- Whether a part of a path may stand in a slot. -/
def holds (k : SlotKind) (s : List Char) : Bool :=
  match k with
  | segment => !s.isEmpty && !s.contains '/'
  | path => !s.contains '\n'
  | whole => isDigits s
  | number =>
    match s.dropWhile Char.isDigit with
    | [] => isDigits s
    | c :: places => c == '.' && isDigits (s.takeWhile Char.isDigit) && isDigits places
  | unique => isGroups [8, 4, 4, 4, 12] s

end SlotKind

/-- A part of a route: a character that stands for itself, or an open part. -/
inductive PatternPart where
  | char (c : Char)
  | slot (name : String) (kind : String)
deriving DecidableEq, Repr

/-- Why a text is no route. -/
inductive PatternFault where
  | unknownKind (kind : String)
  | repeatedNames (names : List String) (path : String)
deriving DecidableEq, Repr

namespace PatternFault

def name : PatternFault → String
  | unknownKind _ => "AssertionError"
  | repeatedNames .. => "ValueError"

def text : PatternFault → String
  | unknownKind kind => s!"Unknown path convertor '{kind}'"
  | repeatedNames names path =>
    let plural := if names.length = 1 then "" else "s"
    s!"Duplicated param name{plural} " ++ String.intercalate ", " names ++ s!" at path {path}"

end PatternFault

/-- A route taken apart. -/
inductive PatternPiece where
  | char (c : Char)
  | slot (kind : SlotKind)
deriving DecidableEq, Repr

abbrev Pattern := List PatternPiece

namespace Pattern

/-! ### Reading -/

def isNameStart (c : Char) : Bool := c.isAlpha || c == '_'

def isNameChar (c : Char) : Bool := c.isAlphanum || c == '_'

/-- A name, and what follows it. -/
def name? (s : List Char) : Option (List Char × List Char) :=
  let name := s.takeWhile isNameChar
  if (name.head?.map isNameStart).getD false then some (name, s.drop name.length) else none

/-- The name and the kind of an open part behind its brace, and how long it is. -/
def slot? (s : List Char) : Option (String × String × Nat) := do
  let (name, rest) ← name? s
  match rest with
  | '\x7d' :: _ => some (String.ofList name, "str", name.length + 1)
  | ':' :: rest =>
    let (kind, rest) ← name? rest
    match rest with
    | '\x7d' :: _ =>
      some (String.ofList name, String.ofList kind, name.length + kind.length + 2)
    | _ => none
  | _ => none

/-- The parts of a route, `skip` characters of which belong to an open part. -/
def partsFrom (skip : Nat) : List Char → List PatternPart
  | [] => []
  | c :: rest =>
    match skip with
    | n + 1 => partsFrom n rest
    | 0 => match (if c = '\x7b' then slot? rest else none) with
      | some (name, kind, length) => .slot name kind :: partsFrom length rest
      | none => .char c :: partsFrom 0 rest

/-- What follows the last open part, from the end. -/
def trailing (parts : List PatternPart) : List PatternPart :=
  parts.reverse.takeWhile fun p => match p with
    | .char _ => true
    | .slot .. => false

/-- The parts of a route. Where it does not begin with a slash, what follows its last
open part ends before a colon. -/
def parts (path : List Char) : List PatternPart :=
  let all := partsFrom 0 path
  if path.head? = some '/' then all
  else
    let last := (trailing all).reverse
    all.take (all.length - last.length) ++ last.takeWhile (· != .char ':')

def pieces : List PatternPart → Except PatternFault Pattern
  | [] => .ok []
  | .char c :: rest => (pieces rest).map (.char c :: ·)
  | .slot _ kind :: rest =>
    match SlotKind.names.lookup kind with
    | some k => (pieces rest).map (.slot k :: ·)
    | none => .error (.unknownKind kind)

def slotNames (parts : List PatternPart) : List String :=
  parts.filterMap fun p => match p with
    | .slot name _ => some name
    | .char _ => none

/-- The names that more than one open part has, in alphabetical order. -/
def repeated (names : List String) : List String :=
  ((names.filter fun n => 1 < names.count n).eraseDups).mergeSort fun a b => !(b < a)

/-- The pattern of a route. -/
def ofPath (path : String) : Except PatternFault Pattern := do
  let parts := parts path.toList
  let pattern ← pieces parts
  match repeated (slotNames parts) with
  | [] => return pattern
  | names => throw (.repeatedNames names path)

/-! ### Matching -/

/-- Whether the whole of a path can be read as a pattern. -/
def accepts : Pattern → List Char → Bool
  | [], s => s == [] || s == ['\n']
  | .char c :: rest, s => match s with
    | d :: s => c == d && accepts rest s
    | [] => false
  | .slot k :: rest, s =>
    (List.range (s.length + 1)).any fun n => k.holds (s.take n) && accepts rest (s.drop n)

end Pattern
end AgentGateway
