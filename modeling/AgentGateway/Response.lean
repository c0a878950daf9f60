import AgentGateway.Identifier
import AgentGateway.Item
import AgentGateway.Request
import AgentGateway.Tool

/-! Responses, as snapshots of what has been produced so far.

A snapshot echoes its request, with the defaults of the wire where the request
left something open, and names the conversation that its identifiers belong to.
-/
namespace AgentGateway

inductive ResponseStatus where
  | completed
  | failed
  | inProgress
  | cancelled
  | queued
  | incomplete
deriving DecidableEq, Repr

namespace ResponseStatus

def name : ResponseStatus → String
  | completed => "completed"
  | failed => "failed"
  | inProgress => "in_progress"
  | cancelled => "cancelled"
  | queued => "queued"
  | incomplete => "incomplete"

def table : List (String × ResponseStatus) :=
  [completed, failed, inProgress, cancelled, queued, incomplete].map fun s => (s.name, s)

def read : Value → Checked ResponseStatus := Schema.oneOf .notLiteral table

end ResponseStatus

structure ResponseError where
  code : String
  message : String
  extra : Fields
deriving DecidableEq, Repr

structure IncompleteDetails where
  reason : Option String
  extra : Fields
deriving DecidableEq, Repr

structure Response where
  id : String
  createdAt : Int
  modelName : Option String
  status : ResponseStatus
  agent : Option AgentReference
  conversation : Option ConversationReference
  metadata : Keyed String
  instructions : Option String
  temperature : Double
  topP : Double
  output : List Item
  usage : UsageReport
  parallelToolCalls : Bool
  tools : List Fields
  toolChoice : Value
  serviceTier : String
  store : Bool
  previousResponseId : Option String
  reasoning : Option Reasoning
  textSettings : Option TextSettings
  maxOutputTokens : Option Int
  error : Option ResponseError
  incompleteDetails : Option IncompleteDetails
  extra : Fields
deriving DecidableEq, Repr

/-- The limit that stands in the way of every snapshot for a request: each has copies of its tools. -/
def Request.limit? (r : Request) : Option Limit := (r.tools.getD []).findSome? Tool.limit?

namespace Response

/-! ### Snapshots -/

/-- The conversation that a snapshot names: the request's own, or the one that was
made for it. -/
def conversationOf (r : Request) (ids : IdSource) : Option ConversationReference :=
  match r.conversation with
  | some c => some c
  | none => if ids.conversationId.isEmpty then none else some (.ofId ids.conversationId)

def modelOf (r : Request) : Option String :=
  match r.agent with
  | some a => some a.name
  | none => r.modelName

/-- A snapshot of a response to a request that can have one (`Request.limit?`). -/
def build (r : Request) (ids : IdSource) (status : ResponseStatus) (output : List Item)
    (usage : Option Usage) (createdAt : Int) : Response :=
  { id := ids.responseId
    createdAt
    modelName := modelOf r
    status
    agent := r.agent
    conversation := conversationOf r ids
    metadata := r.metadata.getD []
    instructions := r.instructions
    temperature := r.temperature.getD .one
    topP := r.topP.getD .one
    output
    usage := .ofUsage usage
    parallelToolCalls := r.parallelToolCalls.getD true
    tools := (r.tools.getD []).map Tool.strict
    toolChoice := r.toolChoice
    serviceTier := "default"
    store := r.store.getD true
    previousResponseId := r.previousResponseId
    reasoning := r.reasoning
    textSettings := r.textSettings
    maxOutputTokens := r.maxOutputTokens
    error := none
    incompleteDetails := none
    extra := [] }

/-! ### Documents -/

/-- The fields that a response knows, in their order. -/
def known : List String :=
  ["id", "object", "created_at", "model", "status", "agent", "conversation", "metadata",
    "instructions", "temperature", "top_p", "output", "usage", "parallel_tool_calls", "tools",
    "tool_choice", "service_tier", "store", "previous_response_id", "reasoning", "text",
    "max_output_tokens", "error", "incomplete_details"]

section
open Schema

def readError : Value → Checked ResponseError :=
  model <| keeping fun fs =>
    (fun code message => ⟨code, message, fs.without ["code", "message"]⟩)
      <$> required fs "code" text <*> required fs "message" text

def readIncomplete : Value → Checked IncompleteDetails :=
  model <| keeping fun fs =>
    (fun reason => ⟨reason, fs.without ["reason"]⟩) <$> maybe fs "reason" text

def readFields : Fields → Checked Response := keeping fun fs =>
  (fun id _ => Response.mk id)
    <$> required fs "id" text
    <*> optional fs "object" (literal "response") ()
    <*> required fs "created_at" int
    <*> maybe fs "model" text
    <*> required fs "status" ResponseStatus.read
    <*> maybe fs "agent" AgentReference.read
    <*> maybe fs "conversation" ConversationReference.read
    <*> optional fs "metadata" (dict text) []
    <*> maybe fs "instructions" text
    <*> optional fs "temperature" float .one
    <*> optional fs "top_p" float .one
    <*> optional fs "output" (list Item.read) []
    <*> optional fs "usage" UsageReport.read .zero
    <*> optional fs "parallel_tool_calls" bool true
    <*> optional fs "tools" (list object) []
    <*> optional fs "tool_choice" any .null
    <*> optional fs "service_tier" text "default"
    <*> optional fs "store" bool true
    <*> maybe fs "previous_response_id" text
    <*> maybe fs "reasoning" Reasoning.read
    <*> maybe fs "text" TextSettings.read
    <*> maybe fs "max_output_tokens" int
    <*> maybe fs "error" readError
    <*> maybe fs "incomplete_details" readIncomplete
    <*> pure (fs.without known)

def read : Value → Checked Response := model readFields

end

def writeError (e : ResponseError) : Value :=
  .object ([("code", .text e.code), ("message", .text e.message)] ++ Value.onWireFields e.extra)

def writeIncomplete (d : IncompleteDetails) : Value :=
  .object (("reason", .ofText? d.reason) :: Value.onWireFields d.extra)

def writeFields (r : Response) : Fields :=
  [
    ("id", .text r.id),
    ("object", .text "response"),
    ("created_at", .int r.createdAt),
    ("model", .ofText? r.modelName),
    ("status", .text r.status.name),
    ("agent", .ofOption AgentReference.write r.agent),
    ("conversation", .ofOption ConversationReference.write r.conversation),
    ("metadata", ConversationReference.writeMetadata r.metadata),
    ("instructions", .ofText? r.instructions),
    ("temperature", .float r.temperature),
    ("top_p", .float r.topP),
    ("output", .list (r.output.map Item.write)),
    ("usage", UsageReport.write r.usage),
    ("parallel_tool_calls", .bool r.parallelToolCalls),
    ("tools", .list (r.tools.map fun t => .underTexts (Value.onWireFields t))),
    ("tool_choice", r.toolChoice.onWire),
    ("service_tier", .text r.serviceTier),
    ("store", .bool r.store),
    ("previous_response_id", .ofText? r.previousResponseId),
    ("reasoning", .ofOption Reasoning.write r.reasoning),
    ("text", .ofOption TextSettings.write r.textSettings),
    ("max_output_tokens", .ofInt? r.maxOutputTokens),
    ("error", .ofOption writeError r.error),
    ("incomplete_details", .ofOption writeIncomplete r.incompleteDetails)] ++ Value.onWireFields r.extra

def write (r : Response) : Value := .object (writeFields r)

/-! ### Snapshots with given fields -/

/-- The fields that a snapshot takes from its request, and which may not be given. -/
def fixed : List String :=
  ["id", "model", "agent", "conversation", "metadata", "instructions", "temperature", "top_p",
    "parallel_tool_calls", "tools", "tool_choice", "service_tier", "store",
    "previous_response_id", "reasoning", "text", "max_output_tokens"]

/-- Who makes a snapshot of what it is given, and who of the whole. -/
def maker : String := "build_response"

def wholeMaker : String := "agent_responses_runtime.engine.schemas.response_api.Response"

/-- What is wrong with the fields that are given for a snapshot: the request and what was
made for it have their places, a status has to be there, and nothing else of the request
may be given again. -/
def buildFault? (given : Fields) : Option CallFault :=
  match given.find? fun e => ["request", "context"].contains e.1 with
  | some (name, _) => some (.taken maker name)
  | none =>
    if given.has "status" then
      (given.find? fun e => fixed.contains e.1).map fun e => .repeated wholeMaker e.1
    else some (.missing maker ["status"])

/-- A snapshot with further fields put over it and checked again. -/
def withFields (r : Response) (more : Fields) : Checked Response :=
  readFields (Keyed.merge (writeFields r) more)

/-- The parts of unknown shape, in their order. -/
def loose (r : Response) : List Value :=
  r.agent.toList.flatMap (·.extra.values) ++ r.conversation.toList.flatMap (·.extra.values) ++
    r.output.flatMap Item.loose ++ r.usage.loose ++ r.tools.flatMap Keyed.values ++
    [r.toolChoice] ++ r.reasoning.toList.flatMap (·.extra.values) ++
    r.textSettings.toList.flatMap TextSettings.loose ++ r.error.toList.flatMap (·.extra.values) ++
    r.incompleteDetails.toList.flatMap (·.extra.values) ++ r.extra.values

/-- A response as it goes out, unless a part of it cannot. -/
def document (r : Response) : Except Failure Value := Failure.outgoing r.loose r.write

end Response
end AgentGateway
