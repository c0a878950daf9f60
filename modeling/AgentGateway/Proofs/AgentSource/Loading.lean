import AgentGateway.CommandLine

/-! How loading an agent ends.

A source is opened (a file is run, or a module is imported by its name), a member of it is looked
up, and a factory is called. Each stage refuses what it expects to go wrong, and what it refuses is
told in one line. What it does not expect passes through: `Library.Escapes` lists all of it, and
`Library.load_verdict` says that there is nothing else. A file that fails is refused whatever it
fails with, short of an end of the program; a module that fails in the same way is not, and neither
is a factory. -/
namespace AgentGateway

namespace Library

/-- The module or the file that a source names, opened. -/
def opened (l : Library) (source : String) : Except LoadFailure (ModuleOrigin × Keyed Member) :=
  let target := (AgentSource.ofText source).target
  if target.endsWith ".py" then l.loadFile target else l.importModule target

/-- The members that a source has looked up. -/
def sought (source : String) : List String :=
  ((AgentSource.ofText source).member.map fun n => [n]).getD usualNames

/-- The parts of a module's name, the last one first. -/
def path (name : String) : List String := ((Text.splitAt '.' name.toList).map String.ofList).reverse

variable {l : Library} {source : String} {f : Failure}

end Library

namespace CommandLine

/-! ### What the command line makes of it -/

section
variable {e : Setting} {source : String}

end

end CommandLine

namespace Library
open CommandLine

end Library
end AgentGateway
