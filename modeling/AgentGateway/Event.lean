import AgentGateway.Response

/-! Events of a streamed response, each with its number.

Envelope events carry a snapshot of the whole response; the others tell how one
item of its output grows. -/
namespace AgentGateway

inductive Envelope where
  | created
  | inProgress
  | completed
  | incomplete
deriving DecidableEq, Repr

inductive Event.Body where
  | envelope (kind : Envelope) (response : Response)
  | itemAdded (index : Int) (item : Item)
  | itemDone (index : Int) (item : Item)
  | partAdded (itemId : String) (index contentIndex : Int) (part : Part)
  | partDone (itemId : String) (index contentIndex : Int) (part : Part)
  | textDelta (itemId : String) (index contentIndex : Int) (delta : String) (logprobs : List Value)
  | textDone (itemId : String) (index contentIndex : Int) (text : String) (logprobs : List Value)
  | argumentsDelta (itemId : String) (index : Int) (delta : String)
  | argumentsDone (itemId : String) (index : Int) (arguments : String)
  | error (code : Option String) (message : String) (param : Option String)
  | other (type : String)
deriving DecidableEq, Repr

structure Event where
  number : Int
  body : Event.Body
  extra : Fields
deriving DecidableEq, Repr

namespace Event

def plain (number : Int) (body : Body) : Event := ⟨number, body, []⟩

def envelopeName : Envelope → String
  | .created => "response.created"
  | .inProgress => "response.in_progress"
  | .completed => "response.completed"
  | .incomplete => "response.incomplete"

/-- The name of an event's kind. -/
def kindName : Body → String
  | .envelope kind _ => envelopeName kind
  | .itemAdded .. => "response.output_item.added"
  | .itemDone .. => "response.output_item.done"
  | .partAdded .. => "response.content_part.added"
  | .partDone .. => "response.content_part.done"
  | .textDelta .. => "response.output_text.delta"
  | .textDone .. => "response.output_text.done"
  | .argumentsDelta .. => "response.function_call_arguments.delta"
  | .argumentsDone .. => "response.function_call_arguments.done"
  | .error .. => "error"
  | .other type => type

/-- The finished item that an event carries, if it carries one. -/
def doneItem? (e : Event) : Option Item :=
  match e.body with
  | .itemDone _ item => some item
  | _ => none

/-- Whether an event is one of those that go out before an agent is asked. -/
def isOpening (e : Event) : Bool :=
  match e.body with
  | .envelope .created _ | .envelope .inProgress _ => true
  | _ => false

/-! ### Documents -/

def writeBody : Body → Fields
  | .envelope _ response => [("response", Response.write response)]
  | .itemAdded index item | .itemDone index item =>
    [("output_index", .int index), ("item", Item.write item)]
  | .partAdded itemId index contentIndex part | .partDone itemId index contentIndex part =>
    [("item_id", .text itemId), ("output_index", .int index), ("content_index", .int contentIndex),
      ("part", Part.write part)]
  | .textDelta itemId index contentIndex delta logprobs =>
    [("item_id", .text itemId), ("output_index", .int index), ("content_index", .int contentIndex),
      ("delta", .text delta), ("logprobs", .list (Value.onWireList logprobs))]
  | .textDone itemId index contentIndex text logprobs =>
    [("item_id", .text itemId), ("output_index", .int index), ("content_index", .int contentIndex),
      ("text", .text text), ("logprobs", .list (Value.onWireList logprobs))]
  | .argumentsDelta itemId index delta =>
    [("item_id", .text itemId), ("output_index", .int index), ("delta", .text delta)]
  | .argumentsDone itemId index arguments =>
    [("item_id", .text itemId), ("output_index", .int index), ("arguments", .text arguments)]
  | .error code message param =>
    [("code", .ofText? code), ("message", .text message), ("param", .ofText? param)]
  | .other _ => []

def write (e : Event) : Value :=
  .object ([("type", .text (kindName e.body)), ("sequence_number", .int e.number)] ++
    writeBody e.body ++ Value.onWireFields e.extra)

/-- The parts of unknown shape, in their order. -/
def loose (e : Event) : List Value :=
  (match e.body with
    | .envelope _ response => response.loose
    | .itemAdded _ item | .itemDone _ item => item.loose
    | .partAdded _ _ _ part | .partDone _ _ _ part => part.loose
    | .textDelta _ _ _ _ logprobs | .textDone _ _ _ _ logprobs => logprobs
    | _ => []) ++ e.extra.values

/-- An event as it goes out, unless a part of it cannot. -/
def document (e : Event) : Except Failure Value := Failure.outgoing e.loose e.write

section
open Schema

/-- The fields of an event of one kind: its name and number, its own, those not
known. -/
def readKind (kind : String) (known : List String) (body : Fields → Checked Body) (fs : Fields) :
    Checked Event :=
  keeping (fun fs =>
    (fun _ number body => ⟨number, body, fs.without (["type", "sequence_number"] ++ known)⟩)
      <$> optional fs "type" (literal kind) ()
      <*> required fs "sequence_number" int
      <*> body fs) fs

def readEnvelope (kind : Envelope) : Fields → Checked Event :=
  readKind (envelopeName kind) ["response"] fun fs =>
    .envelope kind <$> required fs "response" Response.read

def readItem (kind : String) (make : Int → Item → Body) : Fields → Checked Event :=
  readKind kind ["output_index", "item"] fun fs =>
    make <$> required fs "output_index" int <*> required fs "item" Item.read

def readPart (kind : String) (make : String → Int → Int → Part → Body) : Fields → Checked Event :=
  readKind kind ["item_id", "output_index", "content_index", "part"] fun fs =>
    make <$> required fs "item_id" text <*> required fs "output_index" int
      <*> required fs "content_index" int <*> required fs "part" Part.read

def readText (kind field : String) (make : String → Int → Int → String → List Value → Body) :
    Fields → Checked Event :=
  readKind kind ["item_id", "output_index", "content_index", field, "logprobs"] fun fs =>
    make <$> required fs "item_id" text <*> required fs "output_index" int
      <*> required fs "content_index" int <*> required fs field text
      <*> optional fs "logprobs" (list any) []

def readArguments (kind field : String) (make : String → Int → String → Body) :
    Fields → Checked Event :=
  readKind kind ["item_id", "output_index", field] fun fs =>
    make <$> required fs "item_id" text <*> required fs "output_index" int
      <*> required fs field text

def readError : Fields → Checked Event :=
  readKind "error" ["code", "message", "param"] fun fs =>
    .error <$> maybe fs "code" text <*> required fs "message" text <*> maybe fs "param" text

/-- An event of a kind that is known by name only. -/
def readOther : Fields → Checked Event := keeping fun fs =>
  (fun type number => ⟨number, .other type, fs.without ["type", "sequence_number"]⟩)
    <$> required fs "type" text <*> required fs "sequence_number" int

/-- The readers by kind. -/
def readers : List (String × (Fields → Checked Event)) :=
  [.created, .inProgress, .completed, .incomplete].map (fun k => (envelopeName k, readEnvelope k)) ++
  [("response.output_item.added", readItem "response.output_item.added" .itemAdded),
    ("response.output_item.done", readItem "response.output_item.done" .itemDone),
    ("response.content_part.added", readPart "response.content_part.added" .partAdded),
    ("response.content_part.done", readPart "response.content_part.done" .partDone),
    ("response.output_text.delta", readText "response.output_text.delta" "delta" .textDelta),
    ("response.output_text.done", readText "response.output_text.done" "text" .textDone),
    ("response.function_call_arguments.delta",
      readArguments "response.function_call_arguments.delta" "delta" .argumentsDelta),
    ("response.function_call_arguments.done",
      readArguments "response.function_call_arguments.done" "arguments" .argumentsDone),
    ("error", readError)]

end
end Event
end AgentGateway
