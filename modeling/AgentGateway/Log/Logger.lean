import AgentGateway.Log.Record
import AgentGateway.Text.Casing

/-! The logger of the gateway.

Setting up sets the level, gives a handler a form and puts it in the place of the
handler that an earlier set-up installed. Handlers that were added by others stay
as they are. A handler without a tag is made on the spot; nobody collects its
lines. Handlers are given every record that is written, those of other loggers too. -/
namespace AgentGateway

abbrev HandlerTag := Option String

structure HandlerState where
  form : Option LogForm
  /-- Whether a set-up installed the handler. -/
  managed : Bool

structure Logger where
  /-- The level as it was given: a whole number, or a truth value that stands for one. -/
  level : Value
  propagates : Bool
  handlers : List HandlerTag
  states : List (HandlerTag × HandlerState)

namespace Logger

/-- A logger that nothing was done to. -/
def initial : Logger := ⟨.int 0, true, [], []⟩

def stateOf (l : Logger) (t : HandlerTag) : HandlerState := (l.states.lookup t).getD ⟨none, false⟩

/-! ### Setting up -/

/-- A level by its number, or by its name in any case. -/
def readLevel : Value → Except Misuse Value
  | .int n => .ok (.int n)
  | .bool b => .ok (.bool b)
  | .text s =>
    let name := Text.upper s
    match LogRecord.levels.lookup name with
    | some n => .ok (.int n)
    | none => .error (.unknownLevel name)
  | v => .error (.levelKind v)

/-- The handlers with one more; one that is already there keeps its place. -/
def adding (handlers : List HandlerTag) (t : HandlerTag) : List HandlerTag :=
  if handlers.contains t then handlers else handlers ++ [t]

/-- The logger with a level, and a handler of the gateway's own in the place of the one
that it had. -/
def install (l : Logger) (level : Value) (form : LogForm) (t : HandlerTag) : Logger :=
  let kept := l.handlers.filter fun h => !(l.stateOf h).managed
  ⟨level, false, adding kept t, (t, ⟨some form, true⟩) :: l.states⟩

/-- What setting up may be given besides a handler. -/
def setUpSignature : Signature := ⟨"setup_logging", [], [], ["level", "json_format", "handler"]⟩

/-- Set up as the fields say. A level that is none changes nothing; of a handler that is
none, the level stays. -/
def setUp (l : Logger) (given : Fields) (t : HandlerTag) : Logger × Option Misuse :=
  match setUpSignature.fault? given, readLevel ((given.get? "level").getD (.int 20)) with
  | some f, _ => (l, some (.call f))
  | none, .error m => (l, some m)
  | none, .ok level =>
    let form : LogForm := if ((given.get? "json_format").getD .null).isVoid then .text else .json
    match t, (given.get? "handler").bind Value.present? with
    | none, some v => ({ l with level }, some (.noAttribute v.kindName "setFormatter"))
    | t, _ => (l.install level form t, none)

/-- Add a handler that is not the gateway's own. -/
def addForeign (l : Logger) (t : HandlerTag) : Logger := { l with handlers := adding l.handlers t }

/-! ### Logging -/

/-- The level of the root, which counts where the logger has none. -/
def rootLevel : Int := 30

def effectiveLevel (l : Logger) : Int := match l.level.count? with
  | some n => if n = 0 then rootLevel else n
  | none => rootLevel

/-- Whether a level is at least a whole number, for those that are numbers. -/
def reaches? (n : Int) : Value → Option Bool
  | .float d =>
    let (num, den) := d.ratio
    some (!d.isNaN && if d.isFinite then n * den ≤ (if d.negative then -(num : Int) else num)
      else !d.negative)
  | v => v.count?.map fun m => n ≤ m

/-- Whether a level is at most zero, for those that are numbers. -/
def isOff? : Value → Option Bool
  | .float d => some (!d.isNaN && (d.negative || d.isZero))
  | v => v.count?.map fun m => m ≤ 0

/-- Whether a record of a level is written: one above zero that the logger's own level
lets through. -/
def isEnabled (l : Logger) (level : Value) : Except Misuse Bool :=
  match isOff? level, reaches? l.effectiveLevel level with
  | some off, some reached => .ok (!off && reached)
  | _, _ => .error (.unordered ">=" "int" level.kindName)

/-- The lines of a record by the tags of the handlers that collect it, up to the first
one that fails. -/
def linesOf (l : Logger) (now : Double) (r : LogRecord) :
    List String → List (String × String) × Option Failure
  | [] => ([], none)
  | t :: rest =>
    match r.line (l.stateOf (some t)).form now with
    | .error f => ([], some f)
    | .ok s =>
      let (lines, failure) := linesOf l now r rest
      ((t, s) :: lines, failure)

/-- The lines of a record, whatever logger it names. -/
def emit (l : Logger) (now : Double) (r : LogRecord) : List (String × String) × Option Failure :=
  match l.isEnabled r.level with
  | .error m => ([], some (.misuse m))
  | .ok false => ([], none)
  | .ok true => l.linesOf now r (l.handlers.filterMap id)

end Logger
end AgentGateway
