import AgentGateway.Content

/-! Messages of a conversation. -/
namespace AgentGateway

inductive Role where
  | user
  | assistant
  | system
  | developer
  | tool
deriving DecidableEq, Repr

namespace Role

def name : Role → String
  | user => "user"
  | assistant => "assistant"
  | system => "system"
  | developer => "developer"
  | tool => "tool"

def table : List (String × Role) :=
  [user, assistant, system, developer, tool].map fun r => (r.name, r)

def read : Value → Checked Role := Schema.oneOf .notMember table

end Role

structure Message where
  role : Role
  contents : List Content
  author : Option String
  id : Option String
deriving DecidableEq, Repr

namespace Message

def ofText (role : Role) (s : String) : Message := ⟨role, [.ofText s], none, none⟩

def text (m : Message) : String := Content.textOf m.contents

def read : Value → Checked Message :=
  Schema.model fun fs =>
    Message.mk <$> Schema.optional fs "role" Role.read .user
      <*> Schema.optional fs "contents" (Schema.list Content.read) []
      <*> Schema.maybe fs "author_name" Schema.text
      <*> Schema.maybe fs "message_id" Schema.text

def write (m : Message) : Value :=
  .object [
    ("role", .text m.role.name),
    ("contents", .list (m.contents.map Content.write)),
    ("author_name", .ofText? m.author),
    ("message_id", .ofText? m.id)]

end Message
end AgentGateway
