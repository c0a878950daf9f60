import AgentGateway.Schema.Shape
import AgentGateway.Service.Pattern
import AgentGateway.Signature
import AgentGateway.Time.Clock
import AgentGateway.Time.IsoText
import AgentGateway.Text.Markup
import AgentGateway.Text.Placeholder
import AgentGateway.Text.Template
import AgentGateway.Value.Limit

/-! What can go wrong, by cause.

A `Report` is a failure that the gateway itself answers for: it has an HTTP
status, a code and a message. `Misuse` is a call that cannot be carried out as it
was made. Everything an agent or a loaded module raises on its own is `foreign`:
only its name and its text are known. The wording stands in `text`, the name
under which a failure is reported in `name`. -/
namespace AgentGateway

/-! ### Reports -/

inductive ReportKind where
  | application
  | badRequest
  | internalServer
  | generatorState
  | unsupportedContent
  | contentConversion
  | malformedIdentifier
  | invalidRequest
  | agentInvocation
deriving DecidableEq, Repr

namespace ReportKind

def name : ReportKind → String
  | application => "AppBaseException"
  | badRequest => "BadRequestException"
  | internalServer => "InternalServerErrorException"
  | generatorState => "InvalidGeneratorStateError"
  | unsupportedContent => "UnsupportedContentError"
  | contentConversion => "ContentConversionError"
  | malformedIdentifier => "MalformedIdentifierError"
  | invalidRequest => "InvalidRequestException"
  | agentInvocation => "AgentInvocationException"

def all : List ReportKind :=
  [application, badRequest, internalServer, generatorState, unsupportedContent, contentConversion,
    malformedIdentifier, invalidRequest, agentInvocation]

def ofName? (s : String) : Option ReportKind := all.find? fun k => k.name == s

/-- The names of a kind and of every wider kind, in alphabetical order. -/
def lineage : ReportKind → List String
  | application => ["AppBaseException", "BaseException", "Exception"]
  | badRequest => ["AppBaseException", "BadRequestException", "BaseException", "Exception"]
  | internalServer =>
    ["AppBaseException", "BaseException", "Exception", "InternalServerErrorException"]
  | generatorState =>
    ["AppBaseException", "BaseException", "Exception", "InternalServerErrorException",
      "InvalidGeneratorStateError"]
  | unsupportedContent =>
    ["AppBaseException", "BaseException", "Exception", "InternalServerErrorException",
      "UnsupportedContentError"]
  | contentConversion =>
    ["AppBaseException", "BadRequestException", "BaseException", "ContentConversionError",
      "Exception"]
  | malformedIdentifier =>
    ["AppBaseException", "BadRequestException", "BaseException", "Exception",
      "MalformedIdentifierError", "ValueError"]
  | invalidRequest =>
    ["AppBaseException", "BadRequestException", "BaseException", "Exception",
      "InvalidRequestException"]
  | agentInvocation =>
    ["AgentInvocationException", "AppBaseException", "BaseException", "Exception",
      "InternalServerErrorException"]

end ReportKind

/-- A report. One that is described from outside may have any values for its parts. -/
structure Report where
  kind : ReportKind
  status : Value
  code : Value
  message : Value
  details : Value
  /-- The identifier that could not be read, where that is the failure. -/
  identifier : Value
  /-- The name of the failure that this one stands for. -/
  cause : Option String
  /-- What a failed invocation tells besides code and message. -/
  more : Fields
deriving DecidableEq, Repr

namespace Report

def plain (kind : ReportKind) (status : Int) (code message : Value) : Report :=
  ⟨kind, .int status, code, message, .object [], .null, none, []⟩

def badRequest (kind : ReportKind) (code message : String) : Report :=
  plain kind 400 (.text code) (.text message)

def internal (kind : ReportKind) (code message : String) : Report :=
  plain kind 500 (.text code) (.text message)

def completedGenerator : String := "Cannot process content after the generator has been completed."

def generatorState (message : String) : Report :=
  internal .generatorState "INVALID_GENERATOR_STATE" message

def unsupportedContent (generator content : String) : Report :=
  internal .unsupportedContent "UNSUPPORTED_CONTENT"
    s!"{generator} does not support content of type '{content}'."

def contentConversion (message : String) : Report :=
  badRequest .contentConversion "INVALID_CONTENT" message

/-- A report of something that holds no identifier. -/
def malformedIdentifier (identifier : Value) : Report :=
  let message := s!"Id '{identifier.display}' does not contain a valid id."
  { badRequest .malformedIdentifier "INVALID_ID" message with identifier }

def invalidRequest (message : String) : Report :=
  badRequest .invalidRequest "INVALID_REQUEST" message

/-- The code of a failure that is none of the gateway's own. -/
def serverError : String := "server_error"

def agentInvocation (code message : String) : Report := internal .agentInvocation code message

def text (r : Report) : String := s!"[{r.status.display}] {r.code.display}: {r.message.display}"

/-- The form for developers. -/
def signature (r : Report) : String :=
  s!"{r.kind.name}(status={r.status.display}, code='{r.code.display}', message='{r.message.display}')"

/-- The status that a client is answered with. -/
def answerStatus (r : Report) : Int := match r.status with
  | .int n => n
  | _ => 500

def record (r : Report) : Fields :=
  [("status", r.status), ("code", r.code), ("message", r.message), ("details", r.details)]

/-- The body that a client is answered with. -/
def body (r : Report) : Value :=
  .object [("error", .object [
    ("code", r.code), ("message", r.message), ("type", .text r.kind.name)])]

/-- What a failed invocation tells its caller. -/
def error (r : Report) : Value :=
  .object ([("code", r.code), ("message", r.message)] ++ Value.onWireFields r.more)

end Report

/-! ### Misuse -/

inductive Misuse where
  | negativeLength
  | agentRequired
  | emptyAgentName
  | unsafeAgentName (name : String)
  | negativeConcurrency
  | noStream
  | call (f : CallFault)
  | noAttribute (kind name : String)
  | argumentCount (callee : String) (expected given : Nat)
  /-- Values of two kinds that have no order. -/
  | unordered (sign left right : String)
  | noSum (sign left right : String)
  | notIterable (kind : String)
  /-- A text or a list that only its own kind can be added to. -/
  | unjoined (kind other : String)
  | noInteger (kind : String)
  | noIndex
  | notSubscriptable (kind : String)
  | notCallable (kind : String)
  /-- A value that is no text where the name of a part should be. -/
  | partName (kind : String)
  | unhashable (kind : String)
  /-- A place behind the end of a sequence. -/
  | noElement (sequence : String)
  | noEntry (key : Int)
  | clock (f : ClockFault)
  /-- A name that no variable of an environment may have. -/
  | variableName
  | emptyVariableName
  | nullInVariable
  | textExpected (kind : String)
  | unknownLevel (name : String)
  | levelKind (value : Value)
  | nonFiniteNumber
  | unencodable (f : Text.EncodingFault)
  /-- A value without bytes where a text should be. -/
  | notEncodable
  | tooDeepToRead
  | tooDeepToWrite
  /-- A value is beyond what can be spelled or copied. -/
  | exceeded (l : Limit)
  | unplacedMoment
  | unreadableMoment (f : IsoText.Fault)
  | emptyModuleName
  | relativeModuleName (name : String)
  | message (m : Text.Mismatch)
  | markup (f : Text.MarkupFault)
  | template (f : Text.TemplateFault)
  | route (f : PatternFault)
deriving DecidableEq, Repr

namespace Misuse

def name : Misuse → String
  | noStream => "NotImplementedError"
  | unencodable _ => "UnicodeEncodeError"
  | notEncodable => "TypeError"
  | tooDeepToRead => "RecursionError"
  | exceeded l => l.name
  | call _ => "TypeError"
  | noAttribute .. => "AttributeError"
  | argumentCount .. => "TypeError"
  | unordered .. => "TypeError"
  | noSum .. => "TypeError"
  | notIterable _ => "TypeError"
  | unjoined .. => "TypeError"
  | noInteger _ => "TypeError"
  | noIndex => "TypeError"
  | notSubscriptable _ => "TypeError"
  | notCallable _ => "TypeError"
  | partName _ => "TypeError"
  | unhashable _ => "TypeError"
  | noElement _ => "IndexError"
  | noEntry _ => "KeyError"
  | clock f => f.name
  | emptyVariableName => "OSError"
  | textExpected _ => "TypeError"
  | levelKind _ => "TypeError"
  | relativeModuleName _ => "TypeError"
  | message m => m.name
  | markup f => f.name
  | template f => f.name
  | route f => f.name
  | _ => "ValueError"

def text : Misuse → String
  | negativeLength => "length must be non-negative"
  | agentRequired => "agent is required"
  | emptyAgentName => "Agent name must not be empty."
  | unsafeAgentName n => s!"Agent name '{n}' contains characters invalid for URL routes."
  | negativeConcurrency => "Semaphore initial value must be >= 0"
  | noStream => "Subclasses must implement this method"
  | call f => f.text
  | noAttribute kind n => s!"'{kind}' object has no attribute '{n}'"
  | argumentCount callee expected given =>
    s!"{callee} takes exactly {expected} arguments ({given} given)"
  | unordered sign a b => s!"'{sign}' not supported between instances of '{a}' and '{b}'"
  | noSum sign a b => s!"unsupported operand type(s) for {sign}: '{a}' and '{b}'"
  | notIterable kind => s!"'{kind}' object is not iterable"
  | unjoined kind other => s!"can only concatenate {kind} (not \"{other}\") to {kind}"
  | noInteger kind => s!"'{kind}' object cannot be interpreted as an integer"
  | noIndex => "slice indices must be integers or None or have an __index__ method"
  | notSubscriptable kind => s!"'{kind}' object is not subscriptable"
  | notCallable kind => s!"'{kind}' object is not callable"
  | partName kind => s!"attribute name must be string, not '{kind}'"
  | unhashable kind => s!"unhashable type: '{kind}'"
  | noElement sequence => s!"{sequence} index out of range"
  | noEntry key => toString key
  | clock f => f.text
  | variableName => "illegal environment variable name"
  | emptyVariableName => "[Errno 22] Invalid argument"
  | nullInVariable => "embedded null byte"
  | textExpected kind => s!"str expected, not {kind}"
  | unknownLevel n => s!"Unknown level: {Text.quoted n}"
  | levelKind v => s!"Level not an integer or a valid string: {v.nested}"
  | unencodable f => f.text
  | notEncodable => "quote_from_bytes() expected bytes"
  | tooDeepToRead => "maximum recursion depth exceeded while decoding a JSON document"
  | tooDeepToWrite => "Maximum serialization depth exceeded"
  | exceeded l => l.text
  | unplacedMoment => (IsoText.Fault.year 0).text
  | unreadableMoment f => f.text
  | nonFiniteNumber => "Out of range float values are not JSON compliant"
  | emptyModuleName => "Empty module name"
  | relativeModuleName n =>
    s!"the 'package' argument is required to perform a relative import for {Text.quoted n}"
  | message m => m.text
  | markup f => f.text
  | template f => f.text
  | route f => f.text

end Misuse

/-! ### Failures -/

inductive Failure where
  | report (r : Report)
  | misuse (m : Misuse)
  | invalid (faults : List Fault)
  | cancelled
  /-- A failure of another kind, with the argument that it was made of, if any. -/
  | foreign (name : String) (argument : Option Value)
deriving DecidableEq, Repr

namespace Failure

def name : Failure → String
  | report r => r.kind.name
  | misuse m => m.name
  | invalid _ => "ValidationError"
  | cancelled => "CancelledError"
  | foreign n _ => n

/-- Kinds of failure that have a message even where none was given. -/
def syntaxKinds : List String := ["IndentationError", "SyntaxError", "TabError"]

def foreignText (name : String) : Option Value → String
  | none => if syntaxKinds.contains name then Value.null.display else ""
  | some v => if name = "KeyError" then v.nested else v.display

/-- The text of a failure, for one whose text can be spelled (`Failure.limit?`). -/
def text : Failure → String
  | report r => r.text
  | misuse m => m.text
  | invalid faults => s!"{faults.length} validation error(s)"
  | cancelled => ""
  | foreign n argument => foreignText n argument

/-- The limit that stands in the way of a failure's text: what it is made of is shown there. -/
def limit? : Failure → Option Limit
  | report r => [r.status, r.code, r.message].findSome? (Value.limit? .showing)
  | foreign _ (some v) => v.limit? .showing
  | _ => none

def ofLimit (l : Limit) : Failure := misuse (.exceeded l)

/-- Foreign failures that stop the whole program and are not handled on the way. -/
def stopping : List String :=
  ["BaseException", "GeneratorExit", "KeyboardInterrupt", "SystemExit"]

/-- Whether a failure is one that callers handle; a cancellation is not. -/
def isHandled : Failure → Bool
  | cancelled => false
  | foreign n _ => !stopping.contains n
  | _ => true

/-- The failure of an agent as it is reported: a report of a failed agent stays as
it is, anything else stands behind a new report with its text. -/
def toAgentInvocation (f : Failure) : Report :=
  match f with
  | report r =>
    if r.kind = .agentInvocation then r
    else { Report.agentInvocation Report.serverError f.text with cause := some f.name }
  | f => { Report.agentInvocation Report.serverError f.text with cause := some f.name }

/-- The limit that stands in the way of that report. One that stays as it is needs no text. -/
def wrapLimit? (f : Failure) : Option Limit :=
  match f with
  | report r => if r.kind = .agentInvocation then none else f.limit?
  | f => f.limit?

theorem toAgentInvocation_kind (f : Failure) : f.toAgentInvocation.kind = .agentInvocation := by
  cases f with
  | report r =>
    simp only [toAgentInvocation]
    split
    · assumption
    · rfl
  | _ => rfl

/-! ### Documents that cannot go out -/

def ofWire : WireFault → Failure
  | .tooDeep => misuse .tooDeepToWrite
  | .unencodable f => misuse (.unencodable f)

/-- A document as it goes out, unless one of its parts of unknown shape cannot. -/
def outgoing (loose : List Value) (document : Value) : Except Failure Value :=
  match loose.findSome? Value.wireFault? with
  | some f => .error (ofWire f)
  | none => .ok document

/-! ### Signals of an end

A failure that means the end of an iteration must not leave the body that it is
raised in, where it would be taken for that body's own end. -/

def renamed (place : String) (f : Failure) : Failure :=
  foreign "RuntimeError" (some (.text s!"{place} raised {f.name}"))

/-- A failure as it leaves a stream. -/
def leavingStream (f : Failure) : Failure :=
  if ["StopIteration", "StopAsyncIteration"].contains f.name then f.renamed "async generator" else f

/-- A failure as it leaves a run. -/
def leavingRun (f : Failure) : Failure :=
  if f.name = "StopIteration" then f.renamed "coroutine" else f

/-! ### Described failures -/

/-- What each kind of report is made of. -/
def signatureOf (kind : ReportKind) : Signature :=
  let (required, optional) : List String × List String := match kind with
    | .application => (["status", "code", "message"], [])
    | .badRequest | .internalServer => (["code", "message"], [])
    | .generatorState => ([], ["message"])
    | .unsupportedContent => (["generator_name", "content_type"], [])
    | .contentConversion | .invalidRequest => (["message"], [])
    | .malformedIdentifier => (["identifier"], ["message"])
    | .agentInvocation => ([], ["message", "error"])
  ⟨kind.name ++ ".__init__", ["self"], required, optional ++ ["details"]⟩

/-- The error that a failed invocation tells: a code, a message, and anything else. -/
def readError (fs : Fields) : Checked Report :=
  fs |> Schema.keeping fun fs => (fun code message =>
      { Report.agentInvocation code message with more := fs.without ["code", "message"] })
    <$> Schema.required fs "code" Schema.text <*> Schema.required fs "message" Schema.text

def invocationOf (error message : Value) : Except Failure Report :=
  let made (fs : Fields) : Except Failure Report := match readError fs with
    | .ok r => .ok r
    | .faulty faults => .error (invalid faults)
  match error with
  | .null =>
    made [("code", .text Report.serverError),
      ("message", if message.isVoid then .text "Agent invocation failed" else message)]
  | .object fs => made fs
  | v => .error (misuse (.noAttribute v.kindName "code"))

/-- A report from what distinguishes it from others of its kind. -/
def reportOf (kind : ReportKind) (fs : Fields) : Except Failure Report := do
  if let some f := (signatureOf kind).fault? fs then
    throw (misuse (.call f))
  let part (name : String) : Value := (fs.get? name).getD .null
  let message := part "message"
  let base ← match kind with
    | .application => pure { Report.plain kind 0 (part "code") message with status := part "status" }
    | .badRequest => pure (Report.plain kind 400 (part "code") message)
    | .internalServer => pure (Report.plain kind 500 (part "code") message)
    | .generatorState =>
      let r := Report.generatorState Report.completedGenerator
      pure { r with message := (fs.get? "message").getD r.message }
    | .unsupportedContent =>
      pure (Report.unsupportedContent (part "generator_name").display (part "content_type").display)
    | .contentConversion => pure { Report.contentConversion "" with message }
    | .malformedIdentifier =>
      let r := Report.malformedIdentifier (part "identifier")
      pure { r with message := message.present?.getD r.message }
    | .invalidRequest => pure { Report.invalidRequest "" with message }
    | .agentInvocation => invocationOf (part "error") message
  let details := part "details"
  return { base with details := if details.isVoid then .object [] else details }

/-- Names by which kinds of failure are also known. -/
def aliases : List (String × String) := [("EnvironmentError", "OSError"), ("IOError", "OSError")]

/-- Kinds of failure that are made of more than a message: who counts the arguments,
and how many there have to be. -/
def elaborateKinds : List (String × String × Nat) :=
  [("BaseExceptionGroup", "BaseExceptionGroup.__new__()", 2),
    ("ExceptionGroup", "BaseExceptionGroup.__new__()", 2), ("UnicodeDecodeError", "function", 5),
    ("UnicodeEncodeError", "function", 5), ("UnicodeTranslateError", "function", 4)]

def named (name : String) (argument : Option Value) : Except Failure Failure :=
  match elaborateKinds.lookup name with
  | some (callee, n) => .error (misuse (.argumentCount callee n argument.toList.length))
  | none => .ok (foreign ((aliases.lookup name).getD name) argument)

/-- A failure from its description: a name with an argument, or one of the gateway's
own kinds with what it is made of. What is described may not be there to be made. -/
def ofFields (fs : Fields) : Except Failure Failure :=
  let name := ((fs.get? "type").getD .null).display
  match fs.get? "kwargs", ReportKind.ofName? name with
  | some (.object parts), some kind => (reportOf kind parts).map report
  | _, _ => named name (fs.get? "message")

/-- The failure that a description leads to, that of making it included. -/
def raised (fs : Fields) : Failure := match ofFields fs with
  | .ok f => f
  | .error f => f

end Failure
end AgentGateway
