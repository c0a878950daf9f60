import AgentGateway.Agent
import AgentGateway.Identifier.Lengths

/-! Answering a request with an agent.

A request is answered with one response, or with a stream of events when it asks
for one. Either way a failure of the agent is reported as a failed invocation; a
report of one passes through as it is. -/
namespace AgentGateway

/-- The identifiers of the response to a request: those that it supplies, and new
ones for the rest. -/
def IdSource.ofRequest (r : Request) (l : Lengths) : Drawing IdSource :=
  IdSource.ofLengths r.suppliedResponseId r.suppliedConversationId l

/-- Whole seconds since 1970, for a moment whose place in time can be told. -/
def secondsOf (m : Moment) : Except Failure Int :=
  if m.isPlaced then .ok m.timestamp else .error (.misuse .unplacedMoment)

/-- The completed response for an agent's run. It is not made of what cannot be spelled or copied. -/
def Response.ofRun (r : Request) (ids : IdSource) (now : Int) (run : Run) : Drawing Response := do
  let output ← Item.ofMessages ids run.messages
  let createdAt ← match run.createdAt with
    | some m => Drawing.ofExcept (secondsOf m)
    | none => pure now
  if let some l := r.limit? then throw (.ofLimit l)
  return .build r ids .completed output run.usage createdAt

structure Executor where
  agent : Agent
  kinds : List BuilderKind
  lengths : Lengths

namespace Executor

/-- An executor needs an agent. Media are streamed only where that is asked for and
no kinds are named. -/
def make (agent : Option Agent) (streamMedia : Bool) (kinds : Option (List BuilderKind))
    (lengths : Lengths) : Except Failure Executor :=
  match agent with
  | none => .error (.misuse .agentRequired)
  | some agent =>
    .ok ⟨agent, kinds.getD (if streamMedia then BuilderKind.extended else BuilderKind.standard), lengths⟩

/-- What may be said about an executor besides its agent. -/
def signature : Signature :=
  ⟨"ResponseAPIExecutor.__init__", ["self", "agent"], [],
    ["stream_media_content", "generators", "entropy_length", "partition_key_length"]⟩

/-- A failure on the way out: whatever callers handle becomes a failed invocation. The text that is
needed for that may not be there. -/
def escalate (f : Failure) : Failure :=
  if f.isHandled then
    match f.wrapLimit? with
    | some l => .ofLimit l
    | none => .report f.toAgentInvocation
  else f

/-- Answer with one response. -/
def respond (e : Executor) (r : Request) (ids : IdSource) (now : Int) : Drawing Response :=
  match e.agent.run with
  | .error f => throw (escalate f)
  | .ok run => Response.ofRun r ids now run

/-- Answer with a stream of events, which a caller may be able to stop. -/
def stream (e : Executor) (r : Request) (supply : Supply) (now : Int) (cancellable : Bool) :
    Projection.Stretch :=
  let start := Projection.State.initial supply
  match e.agent.stream with
  | .error f => .failed start (escalate f)
  | .ok source =>
    let s := Projection.launch ⟨r, e.kinds, now, cancellable⟩ start source
    { s with failure := s.failure.map escalate }

end Executor
end AgentGateway
