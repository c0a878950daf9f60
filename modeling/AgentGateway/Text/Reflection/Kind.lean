/-! Kinds of values as they describe themselves.

A kind has a name, some measures, and entries; every kind but the widest one also has the
entries of the widest. An entry has a form, which decides what it is when it is asked for:
an operation, something that is told of a value, or a fixed text. -/
namespace AgentGateway.Text.Reflection

inductive EntryForm where
  /-- An operation with a name of its own. -/
  | method
  /-- An operation that is written as a sign, such as a sum. -/
  | slot
  /-- An operation on the kind itself. -/
  | ofKind
  /-- An operation that needs no value and keeps its kind. -/
  | free
  /-- An operation that needs no value and keeps nothing. -/
  | loose
  /-- What is worked out for a value. -/
  | field
  /-- What is kept with a value. -/
  | member
  /-- A text that is the same for all values, or none. -/
  | constant
deriving DecidableEq, Repr

structure Entry where
  name : String
  form : EntryForm
  /-- What the entry is for; of a constant, its text. -/
  doc : Option String
  signature : Option String
deriving DecidableEq, Repr

structure Kind where
  name : String
  /-- The sizes of a value and of each of its items. -/
  size : Int
  itemSize : Int
  flags : Int
  /-- Where a value keeps its references and its own entries. -/
  referencePlace : Int
  entriesPlace : Int
  signature : Option String
  entries : List Entry
deriving DecidableEq, Repr

namespace Kind

/-- A kind of which nothing but its name is known. -/
def named (name : String) : Kind := ⟨name, 0, 0, 0, 0, 0, none, []⟩

def find? (k : Kind) (name : String) : Option Entry := k.entries.find? fun e => e.name == name

/-- What the kind is for. -/
def doc (k : Kind) : Option String := (k.find? "__doc__").bind (·.doc)

end Kind
end AgentGateway.Text.Reflection
