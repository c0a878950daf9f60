import AgentGateway.Json.Reader

/-! What a value must not exceed to be spelled or copied.

A whole number of more than `Json.digitLimit` digits has no text. Whoever spells or copies a value
goes down into it, and takes room on the program's stack with every list and object. How much is
left there depends on the caller, so the number of levels is a round one: it is that of the
levels that a body may have, and half of it for copying, which takes twice the room. -/
namespace AgentGateway

/-- What may be done with a value that goes down into it. -/
inductive Descent where
  /-- Its JSON text is written. -/
  | encoding
  /-- It is shown in running text. -/
  | showing
  | copying
deriving DecidableEq, Repr

namespace Descent

/-- How many lists and objects may stand inside each other. -/
def levels : Descent → Nat
  | encoding | showing => 950
  | copying => 475

/-- A copy has its numbers as they are; every other descent spells them. -/
def spells : Descent → Bool
  | encoding | showing => true
  | copying => false

end Descent

/-- A limit that a value exceeds. -/
inductive Limit where
  | digits
  | depth (d : Descent)
deriving DecidableEq, Repr

namespace Limit

def name : Limit → String
  | digits => "ValueError"
  | depth _ => "RecursionError"

def text : Limit → String
  | digits => s!"Exceeds the limit ({Json.digitLimit} digits) for integer string conversion; use sys.set_int_max_str_digits() to increase the limit"
  | depth .encoding => "maximum recursion depth exceeded while encoding a JSON object"
  | depth .showing => "maximum recursion depth exceeded while getting the repr of an object"
  | depth .copying => "maximum recursion depth exceeded while calling a Python object"

end Limit

namespace Value

/-- Whether a number has more digits than can be spelled. -/
def isTooLong (n : Int) : Bool := Json.digitLimit < (Nat.toDigits 10 n.natAbs).length

mutual
/-- The first limit that is exceeded on the way through a value, where so many lists and objects
may still stand inside each other. -/
def limitWithin (d : Descent) (room : Nat) : Value → Option Limit
  | .int n => if d.spells && isTooLong n then some .digits else none
  | .list xs => if room = 0 then some (.depth d) else limitInList d (room - 1) xs
  | .object fs => if room = 0 then some (.depth d) else limitInFields d (room - 1) fs
  | _ => none
def limitInList (d : Descent) (room : Nat) : List Value → Option Limit
  | [] => none
  | x :: xs => (limitWithin d room x).or (limitInList d room xs)
def limitInFields (d : Descent) (room : Nat) : List (String × Value) → Option Limit
  | [] => none
  | (_, v) :: rest => (limitWithin d room v).or (limitInFields d room rest)
end

/-- The limit that stands in the way of a descent, if one does. -/
def limit? (d : Descent) (v : Value) : Option Limit := limitWithin d d.levels v

end Value
end AgentGateway
