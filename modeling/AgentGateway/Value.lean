import AgentGateway.Keyed
import AgentGateway.Number.Double
import AgentGateway.Time.Moment

/-! Dynamic values: what a JSON document holds, and the points in time that an
agent may put among them. Objects whose keys are no texts are none of these.

An object is a list of fields in the order of their first appearance. -/
namespace AgentGateway

inductive Value where
  | null
  | bool (b : Bool)
  | int (n : Int)
  | float (d : Double)
  | text (s : String)
  | moment (m : Moment)
  | list (xs : List Value)
  | object (fields : List (String × Value))
deriving Inhabited, Repr

abbrev Fields := Keyed Value

namespace Value

/-! ### Equality -/

mutual
def decEq : (a b : Value) → Decidable (a = b)
  | .null, .null => isTrue rfl
  | .bool a, .bool b => if h : a = b then isTrue (h ▸ rfl) else isFalse (by simpa using h)
  | .int a, .int b => if h : a = b then isTrue (h ▸ rfl) else isFalse (by simpa using h)
  | .float a, .float b => if h : a = b then isTrue (h ▸ rfl) else isFalse (by simpa using h)
  | .text a, .text b => if h : a = b then isTrue (h ▸ rfl) else isFalse (by simpa using h)
  | .moment a, .moment b => if h : a = b then isTrue (h ▸ rfl) else isFalse (by simpa using h)
  | .list a, .list b =>
    match decEqList a b with
    | isTrue h => isTrue (h ▸ rfl)
    | isFalse h => isFalse (by simpa using h)
  | .object a, .object b =>
    match decEqFields a b with
    | isTrue h => isTrue (h ▸ rfl)
    | isFalse h => isFalse (by simpa using h)
  | .null, .bool _ | .null, .int _ | .null, .float _ | .null, .text _ | .null, .moment _
  | .null, .list _ | .null, .object _ | .bool _, .null | .bool _, .int _ | .bool _, .float _
  | .bool _, .text _ | .bool _, .moment _ | .bool _, .list _ | .bool _, .object _
  | .int _, .null | .int _, .bool _ | .int _, .float _ | .int _, .text _ | .int _, .moment _
  | .int _, .list _ | .int _, .object _ | .float _, .null | .float _, .bool _ | .float _, .int _
  | .float _, .text _ | .float _, .moment _ | .float _, .list _ | .float _, .object _
  | .text _, .null | .text _, .bool _ | .text _, .int _ | .text _, .float _ | .text _, .moment _
  | .text _, .list _ | .text _, .object _ | .moment _, .null | .moment _, .bool _
  | .moment _, .int _ | .moment _, .float _ | .moment _, .text _ | .moment _, .list _
  | .moment _, .object _ | .list _, .null | .list _, .bool _ | .list _, .int _
  | .list _, .float _ | .list _, .text _ | .list _, .moment _ | .list _, .object _
  | .object _, .null | .object _, .bool _ | .object _, .int _ | .object _, .float _
  | .object _, .text _ | .object _, .moment _ | .object _, .list _ => isFalse (by simp)
def decEqList : (a b : List Value) → Decidable (a = b)
  | [], [] => isTrue rfl
  | [], _ :: _ | _ :: _, [] => isFalse (by simp)
  | x :: xs, y :: ys =>
    match decEq x y, decEqList xs ys with
    | isTrue h, isTrue k => isTrue (h ▸ k ▸ rfl)
    | isFalse h, _ => isFalse (by simp [h])
    | _, isFalse k => isFalse (by simp [k])
def decEqFields : (a b : List (String × Value)) → Decidable (a = b)
  | [], [] => isTrue rfl
  | [], _ :: _ | _ :: _, [] => isFalse (by simp)
  | (k, x) :: xs, (l, y) :: ys =>
    match decEq x y, decEqFields xs ys with
    | isTrue h, isTrue g =>
      if e : k = l then isTrue (h ▸ g ▸ e ▸ rfl) else isFalse (by simp [e])
    | isFalse h, _ => isFalse (by simp [h])
    | _, isFalse g => isFalse (by simp [g])
end

instance : DecidableEq Value := decEq

/-! ### Making and taking apart -/

/-- An object written with each key once, the last value of a key in the place of
its first. -/
def ofPairs (pairs : List (String × Value)) : Value := .object (Keyed.merge [] pairs)

def get? (v : Value) (key : String) : Option Value :=
  match v with
  | .object fs => Keyed.get? fs key
  | _ => none

/-- A value that is not null. -/
def present? : Value → Option Value
  | .null => none
  | v => some v

def text? : Value → Option String
  | .text s => some s
  | _ => none

def ofOption {α : Type} (write : α → Value) : Option α → Value
  | some a => write a
  | none => .null

def ofText? (s : Option String) : Value := ofOption .text s

def ofInt? (n : Option Int) : Value := ofOption .int n

/-- The whole number that a value is; a truth value counts as one. -/
def count? : Value → Option Int
  | .int n => some n
  | .bool b => some (if b then 1 else 0)
  | _ => none

/-- A value that counts as nothing: null, false, zero, or empty. -/
def isVoid : Value → Bool
  | .null => true
  | .bool b => !b
  | .int n => n == 0
  | .float d => d.isZero
  | .text s => s.isEmpty
  | .moment _ => false
  | .list xs => xs.isEmpty
  | .object fs => fs.isEmpty

end Value
end AgentGateway
