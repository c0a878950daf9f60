import AgentGateway.Keyed
import AgentGateway.Value

/-! What a call by names has to name and what it may.

A name that the call does not know, or that it has a value for by its place, is told before
those that are missing. -/
namespace AgentGateway

structure Signature where
  /-- Who is called, as messages name it. -/
  owner : String
  /-- What has its value by its place and may not be named. -/
  placed : List String
  required : List String
  optional : List String
deriving DecidableEq, Repr

/-- A call that does not fit its signature. -/
inductive CallFault where
  | unexpected (owner name : String)
  | missing (owner : String) (names : List String)
  /-- An argument that the call already has from its place. -/
  | taken (owner name : String)
  /-- An argument that the call already has under its name. -/
  | repeated (owner name : String)
deriving DecidableEq, Repr

namespace CallFault

/-- Names in quotes, the last one joined by "and". -/
def listed (names : List String) : String :=
  match names.map fun n => "'" ++ n ++ "'" with
  | [] => ""
  | [a] => a
  | [a, b] => a ++ " and " ++ b
  | quoted => String.intercalate ", " quoted.dropLast ++ ", and " ++ quoted.getLastD ""

def text : CallFault → String
  | unexpected owner n => s!"{owner}() got an unexpected keyword argument '{n}'"
  | missing owner names =>
    let plural := if names.length = 1 then "" else "s"
    s!"{owner}() missing {names.length} required positional argument{plural}: {listed names}"
  | taken owner n => s!"{owner}() got multiple values for argument '{n}'"
  | repeated owner n => s!"{owner}() got multiple values for keyword argument '{n}'"

end CallFault

/-- The first name among those that are given which already has its value by its place. -/
def takenFault? (owner : String) (placed : List String) (given : Fields) : Option CallFault :=
  (given.find? fun e => placed.contains e.1).map fun e => .taken owner e.1

namespace Signature

def knows (s : Signature) (name : String) : Bool := s.required.contains name || s.optional.contains name

/-- Why a name may not be given. -/
def nameFault? (s : Signature) (name : String) : Option CallFault :=
  if s.placed.contains name then some (.taken s.owner name)
  else if s.knows name then none
  else some (.unexpected s.owner name)

/-- The first fault of a call with some fields, if it has one. -/
def fault? (s : Signature) (given : Fields) : Option CallFault :=
  match given.findSome? fun e => s.nameFault? e.1 with
  | some f => some f
  | none =>
    match s.required.filter fun n => !given.has n with
    | [] => none
    | names => some (.missing s.owner names)

end Signature
end AgentGateway
