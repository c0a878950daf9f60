import AgentGateway.Event
import AgentGateway.Item.Conversion

/-! Builders of output items.

A builder turns the contents of one output item into the events of that item. A
text builder stays open over many texts and is closed from outside; every other
builder takes one content and is complete with it.

A builder hands out its events through a cursor. A cursor draws the item's
identifier when its first event is pulled and a number for every event as it is
pulled; only the events that close a text item are numbered all at once.

Builders are for contents that can be spelled. Whether one can be (`Content.limit?`) is seen to
where a builder is opened for it (`Projection.tellFirst`). -/
namespace AgentGateway

inductive BuilderKind where
  | text
  | functionCall
  | functionResult
  | image
  | audio
  | file
  | hostedFile
  | error
deriving DecidableEq, Repr

namespace BuilderKind

/-- The name under which a builder is reported. -/
def reportName : BuilderKind → String
  | text => "AssistantMessageEventGenerator"
  | functionCall => "FunctionCallEventGenerator"
  | functionResult => "FunctionResultEventGenerator"
  | image => "ImageContentEventGenerator"
  | audio => "AudioContentEventGenerator"
  | file => "FileContentEventGenerator"
  | hostedFile => "HostedFileContentEventGenerator"
  | error => "ErrorContentEventGenerator"

def supports (k : BuilderKind) (c : Content) : Bool :=
  match k with
  | text => c.kindName == "text"
  | functionCall => c.kindName == "function_call"
  | functionResult => c.kindName == "function_result"
  | image => c.isImage
  | audio => c.isAudio
  | file => c.isFile
  | hostedFile => c.kindName == "hosted_file"
  | error => c.kindName == "error"

theorem supports_text_iff {c : Content} : text.supports c = true ↔ ∃ s, c.body = .text s := by
  obtain ⟨properties, body⟩ := c
  cases body <;> simp [supports, Content.kindName]

/-- The part that a kind makes of a content, for the kinds whose item is one part. -/
def part? (k : BuilderKind) (c : Content) : Option Part :=
  match k, c.body with
  | image, .data uri _ _ => some (.ofImage uri c.detail?)
  | image, .uri uri _ => some (.ofImage uri c.detail?)
  | audio, .data uri mediaType _ => some (.ofAudio uri mediaType)
  | file, .data uri _ name => some (.ofFile uri name)
  | hostedFile, .hostedFile fileId => some (.ofHostedFile fileId)
  | error, .error message _ _ => some (.ofError message)
  | _, _ => none

/-- The kinds that are used when nothing else is asked for. -/
def standard : List BuilderKind := [text, functionCall, functionResult]

/-- The kinds that also stream media, files and errors. -/
def extended : List BuilderKind := standard ++ [image, audio, file, hostedFile, error]

end BuilderKind

/-- What the builders of one response draw from: identifiers and numbers. -/
structure Supply where
  ids : IdSource
  number : Int
  entropy : Entropy

namespace Supply

/-- An event with the next number. -/
def emit (s : Supply) (body : Event.Body) : Event × Supply :=
  (.plain s.number body, { s with number := s.number + 1 })

/-- Events with the next numbers, in order. -/
def emitAll (s : Supply) : List Event.Body → List Event × Supply
  | [] => ([], s)
  | body :: rest =>
    let (event, s) := s.emit body
    let (events, s) := s.emitAll rest
    (event :: events, s)

/-- Run a drawing on the supply's characters. -/
def draw {α : Type} (s : Supply) (d : IdSource → Drawing α) : Except Failure α × Supply :=
  let (result, entropy) := (d s.ids).run s.entropy
  (result, { s with entropy })

theorem draw_apply {α : Type} (s : Supply) (d : IdSource → Drawing α) :
    s.draw d =
      (((d s.ids).run s.entropy).1, { s with entropy := ((d s.ids).run s.entropy).2 }) := rfl

end Supply

structure ItemBuilder where
  kind : BuilderKind
  index : Int
  completed : Bool
  itemId : Option String
  chunks : List String
deriving DecidableEq, Repr

namespace ItemBuilder

def new (kind : BuilderKind) (index : Int) : ItemBuilder := ⟨kind, index, false, none, []⟩

/-- The text gathered so far. -/
def text (b : ItemBuilder) : String := String.join b.chunks

/-! ### The events of an item -/

/-- The delta for a text, none for an empty one. -/
def deltas (index : Int) (id s : String) : List Event.Body :=
  if s.isEmpty then [] else [.textDelta id index 0 s []]

/-- A message item of one part, from its opening to its end. -/
def partBlock (index : Int) (id : String) (part : Part) : List Event.Body :=
  [.itemAdded index (.message id .inProgress [part]),
    .partAdded id index 0 part,
    .partDone id index 0 part,
    .itemDone index (.message id .completed [part])]

def callBlock (index : Int) (id callId name arguments : String) : List Event.Body :=
  [.itemAdded index (.functionCall id .inProgress callId name ""),
    .argumentsDelta id index arguments,
    .argumentsDone id index arguments,
    .itemDone index (.functionCall id .completed callId name arguments)]

/-- A function result, whose text is shown as a part as well. -/
def outputBlock (index : Int) (id callId output : String) : List Event.Body :=
  [.itemAdded index (.functionOutput id .inProgress callId output),
    .partAdded id index 0 (.outputText output),
    .partDone id index 0 (.outputText output),
    .itemDone index (.functionOutput id .completed callId output)]

/-- The events with which a content opens its item, as a kind tells it. -/
def opening (k : BuilderKind) (index : Int) (id : String) (c : Content) : List Event.Body :=
  match k, c.body with
  | .text, .text s =>
    [.itemAdded index (.message id .inProgress []), .partAdded id index 0 (.outputText "")] ++
      deltas index id s
  | .functionCall, .functionCall callId name arguments =>
    callBlock index id callId name (serializeArguments arguments)
  | .functionResult, .functionResult callId result failure =>
    outputBlock index id callId (Content.resultText result failure)
  | k, _ => ((k.part? c).map (partBlock index id)).getD []

/-- The events that close a text item. -/
def closing (index : Int) (id text : String) : List Event.Body :=
  [.textDone id index 0 text [],
    .partDone id index 0 (.outputText text),
    .itemDone index (.message id .completed [.outputText text])]

def drawId (k : BuilderKind) (ids : IdSource) : Drawing String :=
  match k with
  | .functionCall => ids.functionCallId
  | .functionResult => ids.functionOutputId
  | _ => ids.messageId

/-! ### Taking contents -/

/-- Whether a content of the named kind may be taken; being complete counts first. -/
def accept (b : ItemBuilder) (supported : Bool) (name : String) : Except Report Unit :=
  if b.completed then .error (.generatorState Report.completedGenerator)
  else if supported then .ok ()
  else .error (.unsupportedContent b.kind.reportName name)

/-- What is still to come of the events for one content. -/
inductive Cursor where
  | fresh (c : Content)
  | pending (bodies : List Event.Body)
deriving DecidableEq, Repr

/-- Take a content. All but a text builder are complete from here on. -/
def start (b : ItemBuilder) (c : Content) : Except Report (ItemBuilder × Cursor) := do
  b.accept (b.kind.supports c) c.kindName
  return ({ b with completed := b.kind != .text }, .fresh c)

/-- A builder after one of its events. -/
def after (b : ItemBuilder) (body : Event.Body) : ItemBuilder :=
  match body with
  | .textDelta _ _ _ delta _ => { b with chunks := b.chunks ++ [delta] }
  | _ => b

/-- The events for a content, with the builder that knows its item's identifier.
The first content of an item draws it. -/
def unfold (b : ItemBuilder) (s : Supply) (c : Content) :
    Except Failure (ItemBuilder × List Event.Body) × Supply :=
  match b.itemId with
  | some id => (.ok (b, deltas b.index id (c.text?.getD "")), s)
  | none =>
    let (id, s) := s.draw (drawId b.kind)
    (id.map fun id => ({ b with itemId := some id }, opening b.kind b.index id c), s)

/-- One event, when one is left. -/
structure Pulled where
  event : Option Event
  builder : ItemBuilder
  cursor : Cursor
  supply : Supply

def pullPending (b : ItemBuilder) (s : Supply) : List Event.Body → Pulled
  | [] => ⟨none, b, .pending [], s⟩
  | body :: rest =>
    let (event, s) := s.emit body
    ⟨some event, b.after body, .pending rest, s⟩

/-- Pull the next event. A cursor that fails has nothing more to give. -/
def pull (b : ItemBuilder) (s : Supply) (c : Cursor) : Except (Failure × Supply) Pulled :=
  match c with
  | .pending bodies => .ok (b.pullPending s bodies)
  | .fresh content =>
    match b.unfold s content with
    | (.ok (b, bodies), s) => .ok (b.pullPending s bodies)
    | (.error f, s) => .error (f, s)

/-- Complete the item. Only an open text item has events left. -/
def completion (b : ItemBuilder) : List Event.Body :=
  if b.completed then []
  else match b.kind, b.itemId with
    | .text, some id => closing b.index id b.text
    | _, _ => []

def complete (b : ItemBuilder) : ItemBuilder := { b with completed := true }

end ItemBuilder
end AgentGateway
