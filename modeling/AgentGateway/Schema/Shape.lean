import AgentGateway.Schema.Scalar
import AgentGateway.Value.Wire

/-! Reading of lists, objects and choices between shapes.

`required` and `optional` read one field of an object each, so that a record is
read by applying its constructor to one of them per field, in the order in which
the faults are to be told. -/
namespace AgentGateway.Schema
open Checked
variable {α β : Type}

def any (v : Value) : Checked Value := ok v

def nullable (read : Value → Checked α) : Value → Checked (Option α)
  | .null => ok none
  | v => (read v).map some

def numbered : Nat → List Value → List (Step × Value)
  | _, [] => []
  | n, v :: vs => (.index n, v) :: numbered (n + 1) vs

def list (read : Value → Checked α) : Value → Checked (List α)
  | .list vs => each ((numbered 0 vs).map fun (s, v) => (s, read v))
  | _ => fail .notList

def dict (read : Value → Checked α) : Value → Checked (List (String × α))
  | .object fs => each (fs.map fun (k, v) =>
    (.key (Text.replacedText k), (read v).map fun a => (k, a)))
  | _ => fail .notObject

def object : Value → Checked Fields
  | .object fs => ok fs
  | _ => fail .notObject

/-- One of a fixed set of texts. -/
def oneOf (c : Complaint) (table : List (String × α)) : Value → Checked α
  | .text s => match table.lookup s with
    | some a => ok a
    | none => encoded s fun _ => fail c
  | _ => fail c

def literal (word : String) : Value → Checked Unit := oneOf .notLiteral [(word, ())]

/-! ### Records -/

/-- A record read from the fields of an object. -/
def model (read : Fields → Checked α) : Value → Checked α
  | .object fs => read fs
  | _ => fail .notModel

/-- A record that keeps what it does not know. Every key has to be encodable; where one is
not, nothing else is told. -/
def keeping (read : Fields → Checked α) (fs : Fields) : Checked α :=
  if fs.all fun e => Text.isEncodable e.1.toList then read fs else fail .unencodable

/-- A field that has to be there. -/
def required (fs : Fields) (name : String) (read : Value → Checked α) : Checked α :=
  under (.key name) (match Keyed.get? fs name with
    | some v => read v
    | none => fail .missing)

def optional (fs : Fields) (name : String) (read : Value → Checked α) (whenMissing : α) : Checked α :=
  match Keyed.get? fs name with
  | some v => under (.key name) (read v)
  | none => ok whenMissing

/-- A field that may be null or missing, which comes to the same. -/
def maybe (fs : Fields) (name : String) (read : Value → Checked α) : Checked (Option α) :=
  optional fs name (nullable read) none

/-! ### Choices -/

/-- A choice by the text under `type`. The faults of the chosen record are seen
from under its tag. -/
def tagged (cases : List (String × (Fields → Checked α))) : Value → Checked α
  | .object fs => match Keyed.get? fs "type" with
    | none => fail .untagged
    | some (.text tag) => match cases.lookup tag with
      | some read => under (.key tag) (read fs)
      | none => fail .unknownTag
    | some _ => fail .unknownTag
  | _ => fail .notTagged

/-- A text or a list. Where neither fits, what each would have wanted is told. -/
def textOrList (read : Value → Checked α) (v : Value) : Checked (String ⊕ List α) :=
  match text v, list read v with
  | ok s, _ => ok (.inl s)
  | _, ok xs => ok (.inr xs)
  | faulty fs, faulty gs =>
    faulty ((fs.map fun f => { f with path := .key "str" :: f.path }) ++
      gs.map fun f => { f with path := .key "list" :: f.path })

end AgentGateway.Schema
