import AgentGateway.Schema.Shape

/-! What a request refers to and how it wants its answer: an agent by name, a
conversation by its identifier, the effort of reasoning and the format of texts.
Fields that are not known are kept. -/
namespace AgentGateway
open Schema

/-! ### Agents and conversations -/

structure AgentReference where
  name : String
  version : Option String
  extra : Fields
deriving DecidableEq, Repr

namespace AgentReference

def readFields : Fields → Checked AgentReference := keeping fun fs =>
  (fun _ name version => ⟨name, version, fs.without ["type", "name", "version"]⟩)
    <$> optional fs "type" (literal "agent_reference") ()
    <*> required fs "name" text
    <*> maybe fs "version" text

def read : Value → Checked AgentReference := model readFields

def write (a : AgentReference) : Value :=
  .object ([("type", .text "agent_reference"), ("name", .text a.name),
    ("version", .ofText? a.version)] ++ Value.onWireFields a.extra)

end AgentReference

structure ConversationReference where
  id : String
  metadata : Option (Keyed String)
  extra : Fields
deriving DecidableEq, Repr

namespace ConversationReference

def ofId (id : String) : ConversationReference := ⟨id, none, []⟩

def readFields : Fields → Checked ConversationReference := keeping fun fs =>
  (fun id metadata => ⟨id, metadata, fs.without ["id", "metadata"]⟩)
    <$> required fs "id" text
    <*> maybe fs "metadata" (dict text)

def read : Value → Checked ConversationReference := model readFields

/-- A conversation may be given by its identifier alone. -/
def readLoose : Value → Checked ConversationReference
  | .text id => .ok (ofId id)
  | v => read v

def writeMetadata (m : Keyed String) : Value := .underTexts (m.map fun e => (e.1, .text e.2))

def write (c : ConversationReference) : Value :=
  .object ([("id", .text c.id), ("metadata", .ofOption writeMetadata c.metadata)] ++ Value.onWireFields c.extra)

end ConversationReference

/-! ### Reasoning -/

/-- How much to reason and how to sum it up. Each is one of a few words. -/
structure Reasoning where
  effort : Option String
  generateSummary : Option String
  summary : Option String
  extra : Fields
deriving DecidableEq, Repr

namespace Reasoning

def word (words : List String) : Value → Checked String :=
  oneOf .notLiteral (words.map fun w => (w, w))

def efforts : List String := ["minimal", "low", "medium", "high"]

def summaries : List String := ["auto", "concise", "detailed"]

def readFields : Fields → Checked Reasoning := keeping fun fs =>
  (fun effort generateSummary summary =>
      ⟨effort, generateSummary, summary, fs.without ["effort", "generate_summary", "summary"]⟩)
    <$> maybe fs "effort" (word efforts)
    <*> maybe fs "generate_summary" (word summaries)
    <*> maybe fs "summary" (word summaries)

def read : Value → Checked Reasoning := model readFields

def write (r : Reasoning) : Value :=
  .object ([("effort", .ofText? r.effort), ("generate_summary", .ofText? r.generateSummary),
    ("summary", .ofText? r.summary)] ++ Value.onWireFields r.extra)

end Reasoning

/-! ### Text formats -/

structure TextFormat where
  type : String
  name : Option String
  strict : Option Bool
  schema : Option Fields
  description : Option String
  extra : Fields
deriving DecidableEq, Repr

namespace TextFormat

def types : List String := ["text", "json_object", "json_schema"]

/-- The key that a format's schema stands under: the one of the wire, or, when
that is not there, the long one. -/
def schemaKey (fs : Fields) : String :=
  if fs.has "schema" || !fs.has "json_schema" then "schema" else "json_schema"

def readFields : Fields → Checked TextFormat := keeping fun fs =>
  (fun type name strict schema description =>
      ⟨type, name, strict, schema, description,
        fs.without ["type", "name", "strict", schemaKey fs, "description"]⟩)
    <$> required fs "type" (Reasoning.word types)
    <*> maybe fs "name" text
    <*> maybe fs "strict" bool
    <*> maybe fs (schemaKey fs) object
    <*> maybe fs "description" text

def read : Value → Checked TextFormat := model readFields

def write (f : TextFormat) : Value :=
  .object ([("type", .text f.type), ("name", .ofText? f.name), ("strict", .ofOption .bool f.strict),
    ("schema", .ofOption (fun fs => .underTexts (Value.onWireFields fs)) f.schema),
    ("description", .ofText? f.description)] ++ Value.onWireFields f.extra)

/-- The parts of unknown shape. -/
def loose (f : TextFormat) : List Value := (f.schema.getD []).values ++ f.extra.values

end TextFormat

structure TextSettings where
  format : Option TextFormat
  extra : Fields
deriving DecidableEq, Repr

namespace TextSettings

def readFields : Fields → Checked TextSettings := keeping fun fs =>
  (fun format => ⟨format, fs.without ["format"]⟩) <$> maybe fs "format" TextFormat.read

def read : Value → Checked TextSettings := model readFields

def write (t : TextSettings) : Value :=
  .object (("format", .ofOption TextFormat.write t.format) :: Value.onWireFields t.extra)

/-- The parts of unknown shape. -/
def loose (t : TextSettings) : List Value := t.format.toList.flatMap TextFormat.loose ++ t.extra.values

end TextSettings
end AgentGateway
