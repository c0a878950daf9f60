import AgentGateway.Update

/-! The materialized answer of an agent, whole or gathered from updates.

Gathering starts a message at the first update and at every boundary. Within a
message adjacent texts become one, token counts are summed instead of being kept,
and a message without contents is left out. -/
namespace AgentGateway

structure Run where
  messages : List Message
  usage : Option Usage
  responseId : Option String
  createdAt : Option Moment
deriving DecidableEq, Repr

namespace Run

def text (r : Run) : String := String.join (r.messages.map Message.text)

/-! ### Gathering -/

/-- A content after those of a message; a text joins the text before it. -/
def append (contents : List Content) (c : Content) : List Content :=
  match contents.getLast?, c.body with
  | some ⟨properties, .text before⟩, .text s =>
    contents.dropLast ++ [⟨properties, .text (before ++ s)⟩]
  | _, _ => contents ++ [c]

/-- What has been gathered: finished messages, the current one, the token counts
and the identity that the last update carried on. -/
structure Gathering where
  finished : List Message
  current : Option Message
  usage : Option Usage
  previous : Option Update

namespace Gathering

def empty : Gathering := ⟨[], none, none, none⟩

/-- A message without contents, as an update opens it. -/
def opened (u : Update) : Message :=
  ⟨u.identity.role.getD .assistant, [], u.identity.author, u.identity.message⟩

def take (m : Message) (usage : Option Usage) : List Content → Message × Option Usage
  | [] => (m, usage)
  | c :: rest =>
    match c.body with
    | .usage details => take m (Usage.combine usage details) rest
    | _ => take { m with contents := append m.contents c } usage rest

def step (g : Gathering) (u : Update) : Gathering :=
  let (finished, current) := match g.current with
    | none => (g.finished, opened u)
    | some m =>
      if Update.isNewMessage (some u) g.previous then (g.finished ++ [m], opened u)
      else (g.finished, m)
  let (current, usage) := take current g.usage u.contents
  ⟨finished, some current, usage, some (u.carry g.previous)⟩

def messages (g : Gathering) : List Message :=
  (g.finished ++ g.current.toList).filter fun m => !m.contents.isEmpty

end Gathering

def gather (us : List Update) : Gathering := us.foldl Gathering.step .empty

/-- The run that some updates add up to. -/
def ofUpdates (us : List Update) : Run :=
  let g := gather us
  ⟨g.messages, g.usage, none, none⟩

theorem gather_append (us vs : List Update) :
    gather (us ++ vs) = vs.foldl Gathering.step (gather us) := List.foldl_append ..

/-! ### Documents -/

def read : Value → Checked Run :=
  Schema.model fun fs =>
    Run.mk <$> Schema.optional fs "messages" (Schema.list Message.read) []
      <*> Schema.maybe fs "usage" Usage.read
      <*> Schema.maybe fs "response_id" Schema.text
      <*> Schema.maybe fs "created_at" Schema.moment

def write (r : Run) : Value :=
  .object [
    ("messages", .list (r.messages.map Message.write)),
    ("usage", .ofOption Usage.write r.usage),
    ("response_id", .ofText? r.responseId),
    ("created_at", .ofOption .moment r.createdAt)]

end Run
end AgentGateway
