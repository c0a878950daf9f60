import AgentGateway.Part

/-! Output items of a response: messages, function calls and function results. -/
namespace AgentGateway

inductive ItemStatus where
  | inProgress
  | completed
  | incomplete
deriving DecidableEq, Repr

namespace ItemStatus

def name : ItemStatus → String
  | inProgress => "in_progress"
  | completed => "completed"
  | incomplete => "incomplete"

def table : List (String × ItemStatus) :=
  [inProgress, completed, incomplete].map fun s => (s.name, s)

def read : Value → Checked ItemStatus := Schema.oneOf .notLiteral table

end ItemStatus

inductive Item.Body where
  | message (id : String) (status : ItemStatus) (content : List Part)
  | functionCall (arguments callId name : String) (id : Option String) (status : Option ItemStatus)
  | functionOutput (id callId output : String) (status : ItemStatus)
deriving DecidableEq, Repr

structure Item where
  body : Item.Body
  extra : Fields
deriving DecidableEq, Repr

namespace Item

def message (id : String) (status : ItemStatus) (content : List Part) : Item :=
  ⟨.message id status content, []⟩

def functionCall (id : String) (status : ItemStatus) (callId name arguments : String) : Item :=
  ⟨.functionCall arguments callId name (some id) (some status), []⟩

def functionOutput (id : String) (status : ItemStatus) (callId output : String) : Item :=
  ⟨.functionOutput id callId output status, []⟩

/-! ### Documents -/

section
open Schema

def readMessage : Fields → Checked Item := keeping fun fs =>
  (fun _ id status _ content =>
      ⟨.message id status content, fs.without ["type", "id", "status", "role", "content"]⟩)
    <$> optional fs "type" (literal "message") ()
    <*> required fs "id" text
    <*> optional fs "status" ItemStatus.read .completed
    <*> optional fs "role" (literal "assistant") ()
    <*> optional fs "content" (list Part.read) []

def readFunctionCall : Fields → Checked Item := keeping fun fs =>
  (fun arguments callId name _ id status =>
      ⟨.functionCall arguments callId name id status,
        fs.without ["arguments", "call_id", "name", "type", "id", "status"]⟩)
    <$> required fs "arguments" text
    <*> required fs "call_id" text
    <*> required fs "name" text
    <*> required fs "type" (literal "function_call")
    <*> maybe fs "id" text
    <*> maybe fs "status" ItemStatus.read

def readFunctionOutput : Fields → Checked Item := keeping fun fs =>
  (fun _ id callId output status =>
      ⟨.functionOutput id callId output status,
        fs.without ["type", "id", "call_id", "output", "status"]⟩)
    <$> optional fs "type" (literal "function_call_output") ()
    <*> required fs "id" text
    <*> required fs "call_id" text
    <*> required fs "output" text
    <*> optional fs "status" ItemStatus.read .completed

/-- The readers by tag. -/
def readers : List (String × (Fields → Checked Item)) :=
  [("message", readMessage), ("function_call", readFunctionCall),
    ("function_call_output", readFunctionOutput)]

def read : Value → Checked Item := tagged readers

end

def writeBody : Body → Fields
  | .message id status content =>
    [("type", .text "message"), ("id", .text id), ("status", .text status.name),
      ("role", .text "assistant"), ("content", .list (content.map Part.write))]
  | .functionCall arguments callId name id status =>
    [("arguments", .text arguments), ("call_id", .text callId), ("name", .text name),
      ("type", .text "function_call"), ("id", .ofText? id),
      ("status", .ofOption (fun s => .text s.name) status)]
  | .functionOutput id callId output status =>
    [("type", .text "function_call_output"), ("id", .text id), ("call_id", .text callId),
      ("output", .text output), ("status", .text status.name)]

def write (i : Item) : Value := .object (writeBody i.body ++ Value.onWireFields i.extra)

/-- The parts of unknown shape. -/
def loose (i : Item) : List Value :=
  match i.body with
  | .message _ _ content => content.flatMap Part.loose ++ i.extra.values
  | _ => i.extra.values

end Item
end AgentGateway
