import AgentGateway.Directory
import AgentGateway.Settings.File

/-! Settings that are loaded once.

The first use loads them from the environment, after one file has put its
variables there: the file that is asked for, or else `.env`, or else
`.env.example`. Only the file that is asked for overrides variables already
there. Later uses get the same settings until they are dropped. -/
namespace AgentGateway.Settings

structure Store where
  files : Directory String
  environment : Environment
  current : Option Settings

namespace Store

/-- The file that is read first, and whether it overrides. -/
def source? (s : Store) (asked : Option String) : Option (String × Bool) :=
  match asked.filter s.files.holds with
  | some path => some (path, true)
  | none => ([".env", ".env.example"].find? s.files.holds).map fun path => (path, false)

/-- The environment after the first file is read; a directory has nothing to read. -/
def prepared (s : Store) (asked : Option String) : Environment × Option Misuse :=
  match s.source? asked with
  | none => (s.environment, none)
  | some (path, override) =>
    match s.files.file? path with
    | none => (s.environment, none)
    | some (_, text) => File.load override text s.environment

/-- The settings in use, loaded if there are none. -/
def get (s : Store) (asked : Option String) : Except Failure Settings × Store :=
  match s.current with
  | some settings => (.ok settings, s)
  | none =>
    let (environment, fault) := s.prepared asked
    match fault, load [] environment with
    | some f, _ => (.error (.misuse f), { s with environment })
    | none, .ok settings => (.ok settings, { s with environment, current := some settings })
    | none, .faulty faults => (.error (.invalid faults), { s with environment })

def reset (s : Store) : Store := { s with current := none }

end Store
end AgentGateway.Settings
