import AgentGateway.AgentSource.Library

/-! Libraries described by values.

A member is described by an object with one field: `agent` with its name, `factory`
with what it makes, `raises` with a failure, or `value` with any value. A file of the
library has its members under `attrs`, or the failure that it ends in under `raises`. -/
namespace AgentGateway

namespace Member

/-- A described member; what describes none stands for itself. -/
def ofValue : Value → Member
  | .object [("agent", .text name)] => .agent name
  | .object [("factory", made)] => .factory (ofValue made)
  | .object [("raises", .object spec)] => .failing (Failure.raised spec)
  | .object [("value", v)] => .value v
  | v => .value v

def allOfValue : Value → Keyed Member
  | .object fs => fs.map fun e => (e.1, ofValue e.2)
  | _ => []

end Member

namespace ModuleBody

def ofValue : Value → ModuleBody
  | .object fs =>
    match Keyed.get? fs "raises" with
    | some (.object spec) => .failing (Failure.raised spec)
    | _ => .members (Member.allOfValue ((Keyed.get? fs "attrs").getD .null))
  | _ => .members []

end ModuleBody

namespace Library

/-- The library of described modules, of texts, and of files described as modules. -/
def ofFields (directory : String) (searched : Bool) (modules texts scripts : Fields) : Library where
  modules := modules.map fun e => (e.1, Member.allOfValue e.2)
  files := Keyed.merge
    (texts.map fun e => (e.1, .text e.2.display))
    (scripts.map fun e => (e.1, .module (.ofValue e.2)))
  directory
  searched

/-- The texts among the files; the files of modules count as empty. -/
def texts (l : Library) : Directory String :=
  l.files.map fun e => match e.2 with
    | .text s => (e.1, s)
    | .module _ => (e.1, "")

end Library
end AgentGateway
