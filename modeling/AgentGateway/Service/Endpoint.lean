import AgentGateway.AgentName
import AgentGateway.Execution
import AgentGateway.Settings

/-! Endpoints: an agent served under a path.

The path is given, or made from a template and the agent's name when an endpoint
is first added; from then on it stays. -/
namespace AgentGateway

/-- How requests are executed at an endpoint. -/
structure EndpointOptions where
  streamMedia : Bool
  kinds : Option (List BuilderKind)
  lengths : Lengths

/-- The options among some fields. Anything but nothing asks for media. -/
def EndpointOptions.ofFields (fs : Fields) (kinds : Option (List BuilderKind)) : EndpointOptions :=
  ⟨!((fs.get? "stream_media_content").getD .null).isVoid, kinds, .ofFields fs⟩

/-- Where endpoints go: a path, or else a template and a name to make one of. All three
stand as they are given until they are used. -/
structure Registrar where
  path : Value
  agentName : Value
  template : Value

structure Endpoint where
  path : String
  pattern : Pattern
  executor : Executor

namespace Registrar

/-- Whether a value is below zero, where it can be told. -/
def isNegative (v : Value) : Except Failure Bool :=
  match v with
  | .float d => .ok (d.negative && !d.isZero && !d.isNaN)
  | v => match v.count? with
    | some n => .ok (n < 0)
    | none => .error (.misuse (.unordered "<" v.kindName "int"))

/-- A registrar needs room for some number of requests at once. -/
def make (path agentName template maxConcurrent : Value) : Except Failure Registrar := do
  if ← isNegative maxConcurrent then throw (.misuse .negativeConcurrency)
  return ⟨path, agentName, template⟩

/-- A registrar from what is given of it. -/
def ofFields (fs : Fields) : Except Failure Registrar := do
  if let some f := takenFault? "ResponseAPIDefaultAdapter.__init__" ["self"] fs then
    throw (.misuse (.call f))
  make ((fs.get? "responses_path").getD .null) ((fs.get? "agent_name").getD .null)
    ((fs.get? "path_template").getD (.text Settings.standardTemplate))
    ((fs.get? "max_concurrent_requests").getD (.int 100))

def nameFor (r : Registrar) (agent : Agent) : Value :=
  if r.agentName.isVoid then .text agent.displayName else r.agentName

/-- The path that a template makes of a name. -/
def fill (template : Value) (name : String) : Except Failure String :=
  match template with
  | .text t => (Text.fillTemplate [("agent_name", name)] t).mapError fun f => .misuse (.template f)
  | v => .error (.misuse (.noAttribute v.kindName "format"))

/-- The path of an agent's endpoint. -/
def pathFor (r : Registrar) (agent : Agent) : Except Failure Value :=
  match r.path with
  | .null => do
    let name ← agentNameOf (r.nameFor agent)
    return .text (← fill r.template name)
  | path => .ok path

def patternOf (path : Value) : Except Failure (String × Pattern) :=
  match path with
  | .text s => ((Pattern.ofPath s).mapError fun f => .misuse (.route f)).map fun p => (s, p)
  | v => .error (.misuse (.unjoined "str" v.kindName))

/-- What is wrong with what is said of one endpoint. -/
def addFault? (given : Fields) : Option CallFault :=
  takenFault? "ResponseAPIDefaultAdapter.add_endpoint" ["self", "app", "agent"] given

/-- Add an endpoint for an agent. The path that it gets is the registrar's from then on,
even if no route can be made of it. -/
def add (r : Registrar) (agent : Option Agent) (o : EndpointOptions) :
    Except Failure Endpoint × Registrar :=
  match Executor.make agent o.streamMedia o.kinds o.lengths with
  | .error f => (.error f, r)
  | .ok executor => match r.pathFor executor.agent with
    | .error f => (.error f, r)
    | .ok path => ((patternOf path).map fun p => ⟨p.1, p.2, executor⟩, { r with path })

end Registrar
end AgentGateway
