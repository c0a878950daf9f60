import AgentGateway.Failure
import AgentGateway.Usage

/-! What an agent says and is told: texts, calls of functions and their results,
media, references to files, errors and token counts.

Inline data whose media type is not given takes it from its own `data:` address.
-/
namespace AgentGateway

inductive Content.Body where
  | text (text : String)
  | reasoning (text : String)
  | functionCall (callId name : String) (arguments : Option Fields)
  | functionResult (callId : String) (result : Value) (failure : Option Failure)
  | data (uri : String) (mediaType name : Option String)
  | uri (uri : String) (mediaType : Option String)
  | hostedFile (fileId : String)
  | error (message code details : Option String)
  | usage (details : Option Usage)
deriving DecidableEq, Repr

structure Content where
  properties : Option Fields
  body : Content.Body
deriving DecidableEq, Repr

namespace Content

def ofText (s : String) : Content := ⟨none, .text s⟩

/-- The name of a content's kind. -/
def kindName (c : Content) : String :=
  match c.body with
  | .text _ => "text"
  | .reasoning _ => "reasoning"
  | .functionCall .. => "function_call"
  | .functionResult .. => "function_result"
  | .data .. => "data"
  | .uri .. => "uri"
  | .hostedFile _ => "hosted_file"
  | .error .. => "error"
  | .usage _ => "usage"

def text? (c : Content) : Option String :=
  match c.body with
  | .text s => some s
  | _ => none

/-- The texts of some contents, one after the other. -/
def textOf (cs : List Content) : String := String.join (cs.filterMap text?)

/-! ### Media types of inline data -/

/-- The media type in a `data:` address: what stands before the first `;` or `,`,
if such a mark comes and something stands before it. -/
def mediaTypeOfUri? (uri : String) : Option String :=
  match uri.toList with
  | 'd' :: 'a' :: 't' :: 'a' :: ':' :: rest =>
    let name := rest.takeWhile fun c => c != ';' && c != ','
    if name.isEmpty ∨ (rest.drop name.length).isEmpty then none else some (String.ofList name)
  | _ => none

def isSet (s : Option String) : Bool := s.any fun s => !s.isEmpty

/-- Inline data, with the media type of its address where none is given. -/
def ofData (properties : Option Fields) (uri : String) (mediaType name : Option String) : Content :=
  let inferred := if isSet mediaType then mediaType else (mediaTypeOfUri? uri).orElse fun _ => mediaType
  ⟨properties, .data uri inferred name⟩

/-! ### Documents -/

def readFailure : Value → Checked Failure
  | .object fs => .ok (Failure.raised fs)
  | _ => .fail .notFailure

section
open Schema

def properties? (fs : Fields) : Checked (Option Fields) := maybe fs "additional_properties" object

/-- The fields of a content of one kind: its properties, its tag, then its own. -/
def readKind (tag : String) (fs : Fields) (make : Checked (Option Fields → Content)) :
    Checked Content :=
  (fun properties _ make => make properties)
    <$> properties? fs <*> optional fs "type" (literal tag) () <*> make

def readText (fs : Fields) : Checked Content :=
  readKind "text" fs <| (fun s p => ⟨p, .text s⟩) <$> optional fs "text" text ""

def readReasoning (fs : Fields) : Checked Content :=
  readKind "reasoning" fs <| (fun s p => ⟨p, .reasoning s⟩) <$> optional fs "text" text ""

def readFunctionCall (fs : Fields) : Checked Content :=
  readKind "function_call" fs <|
    (fun callId name arguments p => ⟨p, .functionCall callId name arguments⟩)
      <$> required fs "call_id" text <*> required fs "name" text <*> maybe fs "arguments" object

def readFunctionResult (fs : Fields) : Checked Content :=
  readKind "function_result" fs <|
    (fun callId result failure p => ⟨p, .functionResult callId result failure⟩)
      <$> required fs "call_id" text <*> optional fs "result" any .null
      <*> maybe fs "exception" readFailure

def readData (fs : Fields) : Checked Content :=
  readKind "data" fs <|
    (fun uri mediaType name p => ofData p uri mediaType name)
      <$> required fs "uri" text <*> maybe fs "media_type" text <*> maybe fs "name" text

def readUri (fs : Fields) : Checked Content :=
  readKind "uri" fs <|
    (fun uri mediaType p => ⟨p, .uri uri mediaType⟩)
      <$> required fs "uri" text <*> maybe fs "media_type" text

def readHostedFile (fs : Fields) : Checked Content :=
  readKind "hosted_file" fs <| (fun id p => ⟨p, .hostedFile id⟩) <$> required fs "file_id" text

def readError (fs : Fields) : Checked Content :=
  readKind "error" fs <|
    (fun message code details p => ⟨p, .error message code details⟩)
      <$> maybe fs "message" text <*> maybe fs "error_code" text <*> maybe fs "details" text

def readUsage (fs : Fields) : Checked Content :=
  readKind "usage" fs <| (fun u p => ⟨p, .usage u⟩) <$> maybe fs "details" Usage.read

/-- The readers by tag. -/
def readers : List (String × (Fields → Checked Content)) :=
  [("text", readText), ("reasoning", readReasoning), ("function_call", readFunctionCall),
    ("function_result", readFunctionResult), ("data", readData), ("uri", readUri),
    ("hosted_file", readHostedFile), ("error", readError), ("usage", readUsage)]

def read : Value → Checked Content := tagged readers

end

def writeFailure (f : Failure) : Value :=
  .object [("exception", .text f.name), ("text", .text f.text)]

def writeBody : Body → Fields
  | .text s => [("text", .text s)]
  | .reasoning s => [("text", .text s)]
  | .functionCall callId name arguments =>
    [("call_id", .text callId), ("name", .text name), ("arguments", .ofOption .object arguments)]
  | .functionResult callId result failure =>
    [("call_id", .text callId), ("result", result), ("exception", .ofOption writeFailure failure)]
  | .data uri mediaType name =>
    [("uri", .text uri), ("media_type", .ofText? mediaType), ("name", .ofText? name)]
  | .uri uri mediaType => [("uri", .text uri), ("media_type", .ofText? mediaType)]
  | .hostedFile id => [("file_id", .text id)]
  | .error message code details =>
    [("message", .ofText? message), ("error_code", .ofText? code), ("details", .ofText? details)]
  | .usage u => [("details", .ofOption Usage.write u)]

def write (c : Content) : Value :=
  .object ([("additional_properties", .ofOption .object c.properties), ("type", .text c.kindName)] ++
    writeBody c.body)

end Content
end AgentGateway
