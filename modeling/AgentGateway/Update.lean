import AgentGateway.Message

/-! Updates that an agent streams, and where one message ends and the next begins.

An update may name the author, the message and the role that it belongs to. A
field splits messages only when two updates both set it, to different values.
What an update leaves unset is carried on from the updates before it, so an
update without any identity never hides a later change. -/
namespace AgentGateway

/-- The fields that say which message an update belongs to. -/
structure Identity where
  author : Option String
  message : Option String
  role : Option Role
deriving DecidableEq, Repr

structure Update where
  identity : Identity
  contents : List Content
deriving DecidableEq, Repr

namespace Identity

def none : Identity := ⟨.none, .none, .none⟩

/-- A text that is there and not empty. -/
def set (s : Option String) : Option String := s.filter fun s => !s.isEmpty

def differs {α : Type} [DecidableEq α] : Option α → Option α → Bool
  | some a, some b => a != b
  | _, _ => false

/-- Whether some field is set on both sides, to different values. -/
def splits (now before : Identity) : Bool :=
  differs (set now.author) (set before.author) || differs (set now.message) (set before.message) ||
    differs now.role before.role

/-- A text if it is set, else the one before it. -/
def carryText (now before : Option String) : Option String :=
  if (set now).isSome then now else before

/-- An identity with its unset fields taken from the one before it. -/
def carry (now before : Identity) : Identity :=
  { author := carryText now.author before.author
    message := carryText now.message before.message
    role := now.role.orElse fun _ => before.role }

end Identity

namespace Update

def text (u : Update) : String := Content.textOf u.contents

/-- Whether an update starts another message than the one before it. -/
def isNewMessage (u previous : Option Update) : Bool :=
  match u, previous with
  | some u, some p => u.identity.splits p.identity
  | _, _ => false

/-- An update with the identity that it carries on. -/
def carry (u : Update) (previous : Option Update) : Update :=
  match previous with
  | none => u
  | some p => { u with identity := u.identity.carry p.identity }

def read : Value → Checked Update :=
  Schema.model fun fs =>
    (fun author role message contents => ⟨⟨author, message, role⟩, contents⟩)
      <$> Schema.maybe fs "author_name" Schema.text
      <*> Schema.maybe fs "role" Role.read
      <*> Schema.maybe fs "message_id" Schema.text
      <*> Schema.optional fs "contents" (Schema.list Content.read) []

def write (u : Update) : Value :=
  .object [
    ("author_name", .ofText? u.identity.author),
    ("role", .ofOption (fun r => .text r.name) u.identity.role),
    ("message_id", .ofText? u.identity.message),
    ("contents", .list (u.contents.map Content.write))]

end Update
end AgentGateway
