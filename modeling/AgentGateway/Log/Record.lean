import AgentGateway.Failure
import AgentGateway.Json.Writer
import AgentGateway.Time.Clock

/-! What is logged, and the lines that are written of it.

A record's message may hold placeholders for its values; without values it stands
as it is. A line has one of three forms: the bare message, the message behind
time, level and name, or a JSON object with the fields of the response that the
record is about. A failure follows the message, in JSON under a key of its own.

What a record is made of may be told once more among its extra attributes; what is told
there counts. -/
namespace AgentGateway

/-- What is told as the cause of a record. -/
inductive LogCause where
  | absent
  | failure (f : Failure)
  /-- A value that should describe a failure. -/
  | described (v : Value)

structure LogRecord where
  /-- The name of the logger. -/
  name : Value
  level : Value
  levelName : Value
  message : Value
  filling : Text.Filling
  cause : LogCause
  /-- Attributes besides those that every record has. -/
  extra : Fields

inductive LogForm where
  | text
  | json
deriving DecidableEq, Repr

namespace LogCause

/-- Where the gateway's own kinds of failure are known by their full name. -/
def reportOwner : String := "agent_responses_runtime.engine.schemas.exception."

/-- A failure's name and, if there is any, its text. -/
def failureText (f : Failure) : String :=
  let name := match f with
    | .report r => reportOwner ++ r.kind.name
    | f => f.name
  if Failure.syntaxKinds.contains f.name then
    let detail := match f with
      | .foreign _ (some v) => v.display
      | _ => ""
    s!"{name}: " ++ (if detail.isEmpty then "<no detail available>" else detail)
  else if f.text.isEmpty then name else s!"{name}: {f.text}"

/-- A description has three parts: a kind, a failure and the way it took. Of a
description without the other two, only its lack of a failure can be told. -/
def describedText : Value → Except Failure String
  | .list (_ :: .null :: .null :: _) => .ok "NoneType: None"
  | .list (_ :: v :: .null :: _) => .error (.misuse (.noAttribute v.kindName "__suppress_context__"))
  | .list (_ :: _ :: v :: _) => .error (.misuse (.noAttribute v.kindName "tb_frame"))
  | .list _ => .error (.misuse (.noElement "list"))
  | .text s =>
    if Text.size s.toList < 3 then .error (.misuse (.noElement "string"))
    else .error (.misuse (.noAttribute "str" "tb_frame"))
  | .object _ => .error (.misuse (.noEntry 2))
  | v => .error (.misuse (.notSubscriptable v.kindName))

/-- How a cause is told, if there is one. -/
def text? : LogCause → Except Failure (Option String)
  | absent => .ok none
  | failure f => .ok (some (failureText f))
  | described v => if v.isVoid then .ok none else (describedText v).map some

end LogCause

namespace LogRecord

/-! ### Levels -/

/-- Levels with a name, the first name of a level being the one it is shown by. -/
def levels : List (String × Int) :=
  [("CRITICAL", 50), ("FATAL", 50), ("ERROR", 40), ("WARNING", 30), ("WARN", 30), ("INFO", 20),
    ("DEBUG", 10), ("NOTSET", 0)]

/-- The whole number that a level is equal to. -/
def levelNumber? : Value → Option Int
  | .float d => d.toInt?
  | v => v.count?

/-- What a level is shown as: by its name if it has one, and a name by its level. -/
def nameOfLevel (v : Value) : Except Failure Value :=
  match v with
  | .list _ | .object _ => .error (.misuse (.unhashable v.kindName))
  | .text s => .ok (((levels.lookup s).map Value.int).getD (.text s!"Level {s}"))
  | v =>
    let name := (levelNumber? v).bind fun n => (levels.find? fun l => l.2 == n).map (·.1)
    .ok (.text (name.getD s!"Level {v.display}"))

/-! ### Making records -/

/-- Who logs where nobody is named. -/
def usualName : String := "agent_responses_runtime.test"

/-- A record from its description, its extra attributes going first. -/
def ofFields (fs : Fields) : Except Failure LogRecord := do
  let failure ← match fs.get? "exc" with
    | some (.object spec) => (Failure.ofFields spec).map LogCause.failure
    | _ => pure .absent
  let level := (fs.get? "level").getD (.int 20)
  let levelName ← nameOfLevel level
  let extra := match fs.get? "extra" with
    | some (.object extra) => extra
    | _ => []
  let values := match fs.get? "args" with
    | some (.list values) => values
    | _ => []
  return {
    name := (extra.get? "name").getD ((fs.get? "name").getD (.text usualName))
    level := (extra.get? "levelno").getD level
    levelName := (extra.get? "levelname").getD levelName
    message := (extra.get? "msg").getD ((fs.get? "msg").getD .null)
    filling := ((extra.get? "args").map Text.Filling.single).getD (.inTurn values)
    cause := ((extra.get? "exc_info").map LogCause.described).getD failure
    extra }

def detail (r : LogRecord) (name : String) : Value := (r.extra.get? name).getD .null

/-! ### Parts of a line -/

/-- The message with its values filled in. -/
def text (r : LogRecord) : Except Failure String :=
  if r.filling.isVoid then .ok r.message.display
  else (Text.fillPlaceholders r.filling r.message.display).mapError fun m => .misuse (.message m)

/-- The fields that a JSON line tells when a record has them. -/
def extraKeys : List String := ["response_id", "conversation_id", "agent_name", "code"]

def extraFields (r : LogRecord) : Fields :=
  extraKeys.filterMap fun key => (r.detail key).present?.map fun v => (key, v)

/-- A count of seconds; one that is not told is the clock's. -/
def seconds (now : Double) : Value → Except Failure Double
  | .null => .ok now
  | .float d => .ok d
  | v => match v.count? with
    | some n => .ok (Double.ofRatio (n < 0) n.natAbs 1)
    | none => .error (.misuse (.noInteger v.kindName))

/-- When a record was made, to the second; the milliseconds are none but for those that it
brings along. -/
def clock (now : Double) (r : LogRecord) : Except Failure String := do
  let seconds ← seconds now (r.detail "created")
  let text ← (Clock.toSecond seconds).mapError fun f => .misuse (.clock f)
  let milliseconds := (r.extra.get? "msecs").getD (.int 0)
  (Text.fillPlaceholders (.inTurn [.text text, milliseconds]) "%s,%03d").mapError
    fun m => .misuse (.message m)

/-! ### Lines -/

def jsonLine (now : Double) (r : LogRecord) : Except Failure String := do
  let time ← (Clock.toMillisecond now).mapError fun f => .misuse (.clock f)
  let message ← r.text
  let cause ← r.cause.text?
  return Json.write Json.spaced <| .object <|
    [("time", .text time), ("level", r.levelName), ("logger", r.name),
      ("message", .text message)] ++ r.extraFields ++
      (cause.toList.map fun s => ("exc_info", .text s))

/-- A text with another one behind it, on a line of its own; a value that counts as
nothing is none. -/
def withLine (s : String) (more : Value) : Except Failure String :=
  if more.isVoid then .ok s
  else match more with
    | .text t => .ok ((if s.endsWith "\n" then s else s ++ "\n") ++ t)
    | v => .error (.misuse (.unjoined "str" v.kindName))

/-- A text with the record's cause behind it and, after that, what it tells of its stack. A
cause that is told in words is not told again. -/
def withCause (r : LogRecord) (s : String) : Except Failure String := do
  let told := r.detail "exc_text"
  let cause ← if told.isVoid then (Value.ofText? ·) <$> r.cause.text? else pure told
  withLine (← withLine s cause) (r.detail "stack_info")

def textLine (now : Double) (r : LogRecord) : Except Failure String := do
  let message ← r.text
  let clock ← r.clock now
  r.withCause s!"{clock} | {r.levelName.display} | {r.name.display} | {message}"

/-- The line of a record, the bare message where no form is given. -/
def line (form : Option LogForm) (now : Double) (r : LogRecord) : Except Failure String :=
  match form with
  | some .json => r.jsonLine now
  | some .text => r.textLine now
  | none => do r.withCause (← r.text)

end LogRecord
end AgentGateway
