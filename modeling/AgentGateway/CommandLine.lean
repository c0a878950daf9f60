import AgentGateway.AgentSource.Library
import AgentGateway.CommandLine.Arguments
import AgentGateway.Console
import AgentGateway.Service
import AgentGateway.Settings.Store

/-! The command line.

`serve` loads the settings, sets up logging, loads the agent and makes its service;
each step tells what it does, and the first that fails ends the run. A source that
gives no agent and a name or a path that cannot be used are told in one line; a call for
the end of the program ends it with the code that it brings along; any other failure
leaves the program as it is. Serving itself is left to the caller, who
is told what to serve and where. -/
namespace AgentGateway

/-- How logging is set up: at the level of the settings, or at the lowest. -/
structure LoggingPlan where
  verbose : Bool
  level : Level
  json : Bool
deriving DecidableEq, Repr

/-- What is to be served, and where. -/
structure ServingPlan where
  route : String
  title : String
  host : String
  port : Int
  logLevel : String
deriving DecidableEq, Repr

/-- What a run did on its way. -/
structure Session where
  logging : Option LoggingPlan
  serving : Option ServingPlan
  console : Console
deriving DecidableEq, Repr

inductive Ending where
  | done
  | usage
  /-- Ended by a failure that was told. -/
  | told
  /-- Ended on demand, with a code. -/
  | asked (code : Int)
  | failed (f : Failure)
deriving DecidableEq, Repr

namespace Ending

def exitCode : Ending → Int
  | done => 0
  | usage => 2
  | told => 1
  | asked code => code
  | failed _ => 1

end Ending

namespace CommandLine

/-- The world of a run: its settings, its agents, and whether serving is interrupted. -/
structure Setting where
  store : Settings.Store
  library : Library
  interrupted : Bool

/-- A step of a run; it may end the run. -/
abbrev Action := ExceptT Ending (StateM Session)

def say (n : Notice) (text : String) : Action Unit := do
  match (← get).console.notice n none (.text text) with
  | .ok console => modify fun s => { s with console }
  | .error f => throw (.failed f)

/-- End the run with a line on the error stream. -/
def refuse {α : Type} (text : String) : Action α := do
  say .error text
  throw .told

/-- Write without a symbol. -/
def write (toErrors : Bool) (text : String) : Action Unit :=
  modify fun s => { s with console := s.console.write toErrors text }

/-- Failures by which someone stops the program. -/
def interruptions : List String := ["EOFError", "KeyboardInterrupt"]

/-- End the run as it is asked to: with a code, or with words, which are told. -/
def leave {α : Type} (demand : Value) : Action α := do
  match demand with
  | .null => throw (.asked 0)
  | .int code => throw (.asked code)
  | v =>
    write false s!"{v.display}\n"
    throw (.asked 1)

/-- End the run by a failure of another's making. -/
def escape {α : Type} (f : Failure) : Action α := do
  if interruptions.contains f.name then
    write true "\nAborted!\n"
    throw .told
  else match f with
    | .foreign "SystemExit" demand => leave (demand.getD .null)
    | f => throw (.failed f)

def loadSettings (e : Setting) (config : Option String) : Action Settings :=
  match (e.store.get config).1 with
  | .ok s => return s
  | .error f => throw (.failed f)

def loadAgent (e : Setting) (source : String) : Action Agent := do
  say .info s!"Loading agent from: {source}"
  match e.library.load source with
  | .ok agent =>
    say .success s!"Agent '{agent.displayName}' loaded successfully"
    return agent
  | .error (.refused r) => refuse s!"Failed to load agent: {r.text}"
  | .error (.passed f) => escape f

/-- A failure to make the service is told when a value that was given is at fault. -/
def makeService (a : ServeArguments) (agent : Agent) (s : Settings) : Action Service :=
  let given : Fields := [("agent_name", .ofText? a.name), ("responses_path", .ofText? a.path)]
  match Service.create (some agent) given s with
  | .ok service => return service
  | .error f =>
    if ["ValueError", "UnicodeEncodeError"].contains f.name then refuse f.text else escape f

def host (a : ServeArguments) (s : Settings) : String :=
  (a.host.filter fun h => !h.isEmpty).getD s.host

def port (a : ServeArguments) (s : Settings) : Int := (a.port.filter fun p => p != 0).getD s.port

def summary (a : ServeArguments) (agent : Agent) (s : Settings) (service : Service) : Fields :=
  [("agent", .text agent.displayName),
    ("url", .text s!"http://{host a s}:{port a s}{service.endpoint.path}"),
    ("stream_media_content", .bool s.streamMedia),
    ("max_concurrent_requests", .int s.maxConcurrentRequests),
    ("log_level", .text (if a.verbose then Level.debug else s.logLevel).name)]

def servingPlan (a : ServeArguments) (s : Settings) (service : Service) : ServingPlan :=
  ⟨service.endpoint.path, service.title, host a s, port a s,
    Text.lower (if a.verbose then Level.debug else s.logLevel).name⟩

def serve (e : Setting) (a : ServeArguments) : Action Unit := do
  let settings ← loadSettings e a.config
  modify fun s => { s with logging := some ⟨a.verbose, settings.logLevel, settings.logJson⟩ }
  let agent ← loadAgent e a.source
  let service ← makeService a agent settings
  match ServeSummary.render terminalWidth (summary a agent settings service) with
  | .ok table => write false (table ++ "\n")
  | .error f => throw (.failed f)
  say .info "The service will run continuously. Press Ctrl+C to stop."
  modify fun s => { s with serving := some (servingPlan a settings service) }
  if e.interrupted then say .warning "\nService interrupted by user"

def programName : String := "agent-responses"

def version : String := "0.1.0"

def usage : String := s!"Usage: {programName} serve [OPTIONS] SOURCE\n"

def run (e : Setting) (arguments : List String) : Ending × Session :=
  let start : Session := ⟨none, none, Console.empty⟩
  match Command.read? arguments with
  | none => (.usage, { start with console := start.console.write true usage })
  | some .version =>
    (.done, { start with console := start.console.write false s!"{programName}, version {version}\n" })
  | some .help => (.done, { start with console := start.console.write false usage })
  | some (.serve a) =>
    match (serve e a).run start with
    | (.ok (), s) => (.done, s)
    | (.error ending, s) => (ending, s)

end CommandLine
end AgentGateway
