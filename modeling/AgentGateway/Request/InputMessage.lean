import AgentGateway.Message
import AgentGateway.Part.Conversion

/-! Messages of a request, and the messages that the agent sees.

A request's message holds a text or a list of parts. It is seen by the agent as a
message of contents; parts that stand for no content are left out. On the way
back a message with any text becomes that text alone. -/
namespace AgentGateway

inductive InputRole where
  | user
  | assistant
  | system
  | developer
deriving DecidableEq, Repr

namespace InputRole

def name : InputRole → String
  | user => "user"
  | assistant => "assistant"
  | system => "system"
  | developer => "developer"

def table : List (String × InputRole) :=
  [user, assistant, system, developer].map fun r => (r.name, r)

def toRole : InputRole → Role
  | user => .user
  | assistant => .assistant
  | system => .system
  | developer => .developer

/-- The roles that a request's message may have: all but a tool's. -/
def ofRole? : Role → Option InputRole
  | .user => some user
  | .assistant => some assistant
  | .system => some system
  | .developer => some developer
  | .tool => none

end InputRole

structure InputMessage where
  role : InputRole
  content : String ⊕ List Part
  extra : Fields
deriving DecidableEq, Repr

namespace InputMessage

def ofText (s : String) : InputMessage := ⟨.user, .inl s, []⟩

/-! ### What the agent sees -/

def toMessage (m : InputMessage) : Message :=
  match m.content with
  | .inl s => .ofText m.role.toRole s
  | .inr parts => ⟨m.role.toRole, parts.filterMap Part.toContent, none, none⟩

def refusedRole (r : Role) : String :=
  s!"Messages with role '{r.name}' cannot be used as input messages."

/-- The parts of some contents as input, or why one of them is refused. -/
def partsOf : List Content → Except Report (List Part)
  | [] => .ok []
  | c :: rest => do
    let part ← Part.ofContent .input c
    let parts ← partsOf rest
    return part.toList ++ parts

def ofMessage (m : Message) : Except Report InputMessage :=
  match InputRole.ofRole? m.role with
  | none => .error (.contentConversion (refusedRole m.role))
  | some role =>
    if !m.text.isEmpty then .ok ⟨role, .inl m.text, []⟩
    else (partsOf m.contents).map fun parts => ⟨role, .inr parts, []⟩

/-! ### Documents -/

section
open Schema

def readFields : Fields → Checked InputMessage := keeping fun fs =>
  (fun _ role content => ⟨role, content, fs.without ["type", "role", "content"]⟩)
    <$> optional fs "type" (literal "message") ()
    <*> optional fs "role" (oneOf .notLiteral InputRole.table) .user
    <*> required fs "content" (textOrList Part.read)

def read : Value → Checked InputMessage := model readFields

end

def writeContent : String ⊕ List Part → Value
  | .inl s => .text s
  | .inr parts => .list (parts.map Part.write)

def write (m : InputMessage) : Value :=
  .object ([("type", .text "message"), ("role", .text m.role.name),
    ("content", writeContent m.content)] ++ Value.onWireFields m.extra)

/-- The parts of unknown shape. -/
def loose (m : InputMessage) : List Value :=
  match m.content with
  | .inl _ => m.extra.values
  | .inr parts => parts.flatMap Part.loose ++ m.extra.values

end InputMessage
end AgentGateway
