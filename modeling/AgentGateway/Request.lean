import AgentGateway.Request.InputMessage
import AgentGateway.Request.Reference

/-! Requests for a response.

A request is read from a JSON document in one pass that tells all of its faults.
What is read is kept in its written form, so that a request written and read
again is the same request. -/
namespace AgentGateway

structure Request where
  input : String ⊕ List InputMessage
  agent : Option AgentReference
  modelName : Option String
  instructions : Option String
  maxOutputTokens : Option Int
  reasoning : Option Reasoning
  store : Option Bool
  stream : Option Bool
  previousResponseId : Option String
  temperature : Option Double
  topP : Option Double
  parallelToolCalls : Option Bool
  metadata : Option (Keyed String)
  includes : Option (List String)
  conversation : Option ConversationReference
  background : Option Bool
  maxToolCalls : Option Int
  topLogprobs : Option Int
  safetyIdentifier : Option String
  promptCacheKey : Option String
  truncation : Option String
  tools : Option (List Fields)
  toolChoice : Value
  textSettings : Option TextSettings
  extra : Fields
deriving DecidableEq, Repr

namespace Request

/-- The messages of a request; a bare text is one message of the user. -/
def inputMessages (r : Request) : List InputMessage :=
  match r.input with
  | .inl s => [.ofText s]
  | .inr ms => ms

/-- The messages that the agent is run on. -/
def messages (r : Request) : List Message := r.inputMessages.map InputMessage.toMessage

def isStreaming (r : Request) : Bool := r.stream.getD false

/-- The response identifier that a client may name in the metadata. -/
def suppliedResponseId (r : Request) : Option String :=
  r.metadata.bind fun m => m.get? "response_id"

def suppliedConversationId (r : Request) : Option String := r.conversation.map (·.id)

/-- A request that says one thing and leaves all else open. -/
def ofText (s : String) : Request :=
  { input := .inl s, agent := none, modelName := none, instructions := none
    maxOutputTokens := none, reasoning := none, store := none, stream := none
    previousResponseId := none, temperature := none, topP := none, parallelToolCalls := none
    metadata := none, includes := none, conversation := none, background := none
    maxToolCalls := none, topLogprobs := none, safetyIdentifier := none, promptCacheKey := none
    truncation := none, tools := none, toolChoice := .null, textSettings := none, extra := [] }

/-! ### Documents -/

/-- The fields that a request knows, in their order. -/
def known : List String :=
  ["input", "agent", "model", "instructions", "max_output_tokens", "reasoning", "store", "stream",
    "previous_response_id", "temperature", "top_p", "parallel_tool_calls", "metadata", "include",
    "conversation", "background", "max_tool_calls", "top_logprobs", "safety_identifier",
    "prompt_cache_key", "truncation", "tools", "tool_choice", "text"]

section
open Schema

def readFields : Fields → Checked Request := keeping fun fs =>
  Request.mk
    <$> required fs "input" (textOrList InputMessage.read)
    <*> maybe fs "agent" AgentReference.read
    <*> maybe fs "model" text
    <*> maybe fs "instructions" text
    <*> maybe fs "max_output_tokens" int
    <*> maybe fs "reasoning" Reasoning.read
    <*> maybe fs "store" bool
    <*> maybe fs "stream" bool
    <*> maybe fs "previous_response_id" text
    <*> maybe fs "temperature" float
    <*> maybe fs "top_p" float
    <*> maybe fs "parallel_tool_calls" bool
    <*> maybe fs "metadata" (dict text)
    <*> maybe fs "include" (list text)
    <*> maybe fs "conversation" ConversationReference.readLoose
    <*> maybe fs "background" bool
    <*> maybe fs "max_tool_calls" int
    <*> maybe fs "top_logprobs" int
    <*> maybe fs "safety_identifier" text
    <*> maybe fs "prompt_cache_key" text
    <*> maybe fs "truncation" text
    <*> maybe fs "tools" (list object)
    <*> optional fs "tool_choice" any .null
    <*> maybe fs "text" TextSettings.read
    <*> pure (fs.without known)

def read : Value → Checked Request := model readFields

end

def writeInput : String ⊕ List InputMessage → Value
  | .inl s => .text s
  | .inr ms => .list (ms.map InputMessage.write)

def write (r : Request) : Value :=
  .object ([
    ("input", writeInput r.input),
    ("agent", .ofOption AgentReference.write r.agent),
    ("model", .ofText? r.modelName),
    ("instructions", .ofText? r.instructions),
    ("max_output_tokens", .ofInt? r.maxOutputTokens),
    ("reasoning", .ofOption Reasoning.write r.reasoning),
    ("store", .ofOption .bool r.store),
    ("stream", .ofOption .bool r.stream),
    ("previous_response_id", .ofText? r.previousResponseId),
    ("temperature", .ofOption .float r.temperature),
    ("top_p", .ofOption .float r.topP),
    ("parallel_tool_calls", .ofOption .bool r.parallelToolCalls),
    ("metadata", .ofOption ConversationReference.writeMetadata r.metadata),
    ("include", .ofOption (fun names => .list (names.map .text)) r.includes),
    ("conversation", .ofOption ConversationReference.write r.conversation),
    ("background", .ofOption .bool r.background),
    ("max_tool_calls", .ofInt? r.maxToolCalls),
    ("top_logprobs", .ofInt? r.topLogprobs),
    ("safety_identifier", .ofText? r.safetyIdentifier),
    ("prompt_cache_key", .ofText? r.promptCacheKey),
    ("truncation", .ofText? r.truncation),
    ("tools", .ofOption (fun tools => .list (tools.map fun t => .underTexts (Value.onWireFields t))) r.tools),
    ("tool_choice", r.toolChoice.onWire),
    ("text", .ofOption TextSettings.write r.textSettings)] ++
    Value.onWireFields r.extra)

/-- The parts of unknown shape, in their order. -/
def loose (r : Request) : List Value :=
  (match r.input with
    | .inl _ => []
    | .inr ms => ms.flatMap InputMessage.loose) ++
    r.agent.toList.flatMap (·.extra.values) ++ r.reasoning.toList.flatMap (·.extra.values) ++
    r.conversation.toList.flatMap (·.extra.values) ++ (r.tools.getD []).flatMap Keyed.values ++
    [r.toolChoice] ++ r.textSettings.toList.flatMap TextSettings.loose ++ r.extra.values

/-- A request as it goes out, unless a part of it cannot. -/
def document (r : Request) : Except Failure Value := Failure.outgoing r.loose r.write

end Request
end AgentGateway
