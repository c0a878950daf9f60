/-! Checking that goes on after a fault.

A `Checked` value is either good or the list of everything that is wrong with
what it was read from, in the order of reading. Joining two checks keeps the
faults of both, so one pass over a document reports all of its faults. -/
namespace AgentGateway

/-- A step from a value to a part of it. -/
inductive Step where
  | key (name : String)
  | index (n : Nat)
deriving DecidableEq, Repr

/-- What a part is not. -/
inductive Complaint where
  | missing
  | notText
  /-- A text that no encoding takes. -/
  | unencodable
  | notInt
  | unreadableInt
  | fractionalInt
  | oversizedInt
  | infiniteNumber
  | notFloat
  | unreadableFloat
  | notBool
  | unreadableBool
  | notLiteral
  | notMember
  | notObject
  | notList
  | notModel
  | notTagged
  | untagged
  | unknownTag
  | notFailure
  | notMoment
  | unreadableMoment
  | misplacedMoment
  | notPositive
deriving DecidableEq, Repr

/-- The code under which a complaint is reported. -/
def Complaint.code : Complaint → String
  | missing => "missing"
  | notText => "string_type"
  | unencodable => "string_unicode"
  | notInt => "int_type"
  | unreadableInt => "int_parsing"
  | fractionalInt => "int_from_float"
  | oversizedInt => "int_parsing_size"
  | infiniteNumber => "finite_number"
  | notFloat => "float_type"
  | unreadableFloat => "float_parsing"
  | notBool => "bool_type"
  | unreadableBool => "bool_parsing"
  | notLiteral => "literal_error"
  | notMember => "enum"
  | notObject => "dict_type"
  | notList => "list_type"
  | notModel => "model_type"
  | notTagged => "model_attributes_type"
  | untagged => "union_tag_not_found"
  | unknownTag => "union_tag_invalid"
  | notFailure => "is_instance_of"
  | notMoment => "datetime_type"
  | unreadableMoment => "datetime_from_date_parsing"
  | misplacedMoment => "datetime_parsing"
  | notPositive => "value_error"

/-- The text that goes with a complaint whose code alone does not say enough. -/
def Complaint.detail? : Complaint → Option String
  | notPositive => some "Value error, must be a positive integer"
  | _ => none

/-- A complaint and the way to the part that it is about. -/
structure Fault where
  path : List Step
  complaint : Complaint
deriving DecidableEq, Repr

inductive Checked (α : Type) where
  | ok (a : α)
  | faulty (faults : List Fault)
deriving Repr, DecidableEq

namespace Checked
variable {α β γ : Type}

def fail (c : Complaint) : Checked α := .faulty [⟨[], c⟩]

def map (f : α → β) : Checked α → Checked β
  | ok a => ok (f a)
  | faulty fs => faulty fs

/-- Apply a checked function, keeping the faults of both sides. -/
def ap : Checked (α → β) → Checked α → Checked β
  | ok f, ok a => ok (f a)
  | ok _, faulty fs => faulty fs
  | faulty fs, ok _ => faulty fs
  | faulty fs, faulty gs => faulty (fs ++ gs)

instance : Applicative Checked where
  pure := ok
  map := map
  seq f a := ap f (a ())

/-- A further check on a good value. -/
def andThen (c : Checked α) (f : α → Checked β) : Checked β :=
  match c with
  | ok a => f a
  | faulty fs => faulty fs

/-- Faults seen from one step further out. -/
def under (s : Step) : Checked α → Checked α
  | ok a => ok a
  | faulty fs => faulty (fs.map fun f => { f with path := s :: f.path })

/-- Every item checked, each under its own step. -/
def each (items : List (Step × Checked α)) : Checked (List α) :=
  items.foldr (fun (s, c) rest => ap (map List.cons (under s c)) rest) (ok [])

@[simp] theorem pure_eq (a : α) : (pure a : Checked α) = ok a := rfl

@[simp] theorem map_eq (f : α → β) (c : Checked α) : (f <$> c) = map f c := rfl

@[simp] theorem seq_eq (f : Checked (α → β)) (c : Checked α) : (f <*> c) = ap f c := rfl

@[simp] theorem ap_ok_ok (f : α → β) (a : α) : ap (ok f) (ok a) = ok (f a) := rfl

/-- A joined check is good only where both sides are. -/
theorem ap_eq_ok_iff (f : Checked (α → β)) (c : Checked α) (b : β) :
    ap f c = ok b ↔ ∃ g a, f = ok g ∧ c = ok a ∧ g a = b := by
  cases f <;> cases c <;> simp [ap]

theorem under_ok (s : Step) (c : Checked α) (a : α) : under s c = ok a ↔ c = ok a := by
  cases c <;> simp [under]

end Checked
end AgentGateway
