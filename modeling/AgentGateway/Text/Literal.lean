import AgentGateway.Number.Double
import AgentGateway.Text.Literal.Expression

/-! Values written out, as the parameters of an action are: numbers, quoted texts, the
words for truth and for nothing, and groups of values in parentheses or braces. Only
whether a text is such a value is asked for, not which one. -/
namespace AgentGateway.Text.Literal

/-- Why a text is no value. -/
inductive Fault where
  /-- It is no expression. -/
  | unreadable (message : String)
  | unencodable (f : EncodingFault)
  /-- It is an expression of another kind; of one that is missing nothing can be told. -/
  | noValue (line : Option Nat)
  | unhashable (kind : String)
  | tooLarge
deriving DecidableEq, Repr

def Fault.text : Fault → String
  | unreadable message => message
  | unencodable f => f.text
  | noValue none => "malformed node or string: None"
  | noValue (some line) => s!"malformed node or string on line {line}"
  | unhashable kind => s!"unhashable type: '{kind}'"
  | tooLarge => "int too large to convert to float"

/-- What is known of a value. -/
inductive Worth where
  | whole (n : Nat)
  | real
  | imaginary
  | plain
  | tuple (parts : List Worth)
  | set
  | dict

/-! ### Numbers -/

/-- The value of digits in a base. -/
def valueIn (base : Nat) (digits : List Char) : Nat :=
  digits.foldl (fun n c => base * n + (if c.isDigit then c.toNat - 48 else c.toLower.toNat - 87)) 0

/-- What a number is worth. -/
def worthOf (text : String) : Worth :=
  let s := text.toList.filter (· != '_')
  match s with
  | '0' :: c :: digits =>
    match c.toLower with
    | 'x' => .whole (valueIn 16 digits)
    | 'o' => .whole (valueIn 8 digits)
    | 'b' => .whole (valueIn 2 digits)
    | _ => decimal s
  | s => decimal s
where
  decimal (s : List Char) : Worth :=
    if s.any fun c => c == 'j' || c == 'J' then .imaginary
    else if s.all Char.isDigit then .whole (valueIn 10 s) else .real

/-- The worth of a number with a sign in front or none. -/
def number? (signed : Bool) : Tree → Option Worth
  | .node .number [.leaf t] => some (worthOf t.text)
  | .node .signed [_, .node .number [.leaf t]] => if signed then some (worthOf t.text) else none
  | _ => none

/-- The line that a part begins in. -/
def lineOf : Tree → Nat
  | .leaf t => t.line
  | .node _ parts => go parts
where
  go : List Tree → Nat
    | [] => 1
    | .leaf t :: _ => t.line
    | .node _ parts :: _ => go parts

/-! ### Values -/

mutual
/-- The kind of the first part of a value that cannot be a key. -/
def unhashable? : Worth → Option String
  | .set => some "set"
  | .dict => some "dict"
  | .tuple parts => unhashableAmong? parts
  | _ => none
def unhashableAmong? : List Worth → Option String
  | [] => none
  | w :: rest => (unhashable? w).or (unhashableAmong? rest)
end

def checkKey (w : Worth) : Except Fault Unit := match unhashable? w with
  | some kind => .error (.unhashable kind)
  | none => .ok ()

/-- A real number and an imaginary one make a value together. -/
def joined (left right : Option Worth) (otherwise : Fault) : Except Fault Worth :=
  match left, right with
  | some (.whole n), some .imaginary =>
    if (Double.ofInt n).isNone then .error .tooLarge else .ok .imaginary
  | some .real, some .imaginary => .ok .imaginary
  | _, _ => .error otherwise

mutual
/-- What an expression is worth, if it is a value. -/
def worth (t : Tree) : Except Fault Worth :=
  let other : Fault := .noValue (some (lineOf t))
  match t with
  | .node .constant _ => .ok .plain
  | .node .text [] => .error other
  | .node .text parts =>
    if (Tree.node .text parts).words.any fun w => (Quotation.ofToken w.toList).isFilled
    then .error other else .ok .plain
  | .node .tuple parts => (worths parts).map Worth.tuple
  | .node .set parts => do
    keys parts
    return .set
  | .node .dict parts => do
    pairs parts
    return .dict
  | .node .call [.node .name [.leaf n], .leaf _, .leaf _] =>
    if n.text = "set" then .ok .set else .error other
  | .node .sum [left, _, right] => joined (number? true left) (number? false right) other
  | t => (number? true t).elim (.error other) .ok
def worths : List Tree → Except Fault (List Worth)
  | [] => .ok []
  | .leaf _ :: rest => worths rest
  | t :: rest => do
    let w ← worth t
    return w :: (← worths rest)
/-- Values that all have to be keys. -/
def keys : List Tree → Except Fault Unit
  | [] => .ok ()
  | .leaf _ :: rest => keys rest
  | t :: rest => do
    checkKey (← worth t)
    keys rest
/-- Keys with values. -/
def pairs : List Tree → Except Fault Unit
  | [] => .ok ()
  | .node .pair [key, _, value] :: rest => do
    let w ← worth key
    discard (worth value)
    checkKey w
    pairs rest
  | .leaf _ :: rest => pairs rest
  | _ :: _ => .error (.noValue none)
end

/-- Whether a text is a value. -/
def check (s : List Char) : Except Fault Unit := do
  if let some f := encodingFault? s then throw (.unencodable f)
  let plain := (codes s).map Char.ofNat
  if plain.contains '\x00' then throw (.unreadable "source code string cannot contain null bytes")
  discard (worth (← (Expression.read plain).mapError .unreadable))

end AgentGateway.Text.Literal
