import AgentGateway.AgentSource.Catalogue
import AgentGateway.CommandLine
import AgentGateway.Json.Reader

/-! The program: it reads the world that a run needs and shows what the run did.

Modules, and files that stand for modules, are described in `agents.json` in the
working directory, under `modules` and `scripts`. -/
open AgentGateway

def readText (path : String) : IO (Option String) := do
  try return some (← IO.FS.readFile path) catch _ => return none

def readSettings : IO (Keyed String) := do
  let found ← Settings.known.mapM fun name => do return (← IO.getEnv name).map fun v => (name, v)
  return found.filterMap id

/-- Those of the named files that can be read. -/
def readFiles (names : List String) : IO (Directory String) := do
  let found ← names.mapM fun name => do return (← readText name).map fun s => (name, s)
  return found.filterMap id

def objectUnder (v : Value) (key : String) : Fields :=
  match v.get? key with
  | some (.object fs) => fs
  | _ => []

def configNames (arguments : List String) : List String :=
  match Command.read? arguments with
  | some (.serve a) => a.config.toList
  | _ => []

def main (arguments : List String) : IO UInt32 := do
  let described := ((← readText "agents.json").bind Json.read?).getD .null
  let library := Library.ofFields "." false (objectUnder described "modules") []
    (objectUnder described "scripts")
  let files ← readFiles (configNames arguments ++ [".env", ".env.example"])
  let store : Settings.Store := ⟨files, ← readSettings, none⟩
  let (ending, session) := CommandLine.run ⟨store, library, false⟩ arguments
  IO.print session.console.output
  IO.eprint session.console.errors
  if let .failed f := ending then IO.eprintln s!"{f.name}: {f.text}"
  return UInt32.ofNat (ending.exitCode % 256).toNat
