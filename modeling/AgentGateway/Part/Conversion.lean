import AgentGateway.Content.Media
import AgentGateway.Part

/-! From contents to parts and back.

A content without a part of its own (a function call or result, token counts, a
link that is no image) becomes no part. As input, reasoning and errors are
refused: they come from a model and are not what a user says. -/
namespace AgentGateway

/-- Which way a content travels. -/
inductive Direction where
  | input
  | output
deriving DecidableEq, Repr

namespace Direction

/-- What a conversion may be told besides the content. -/
def signature : Signature := ⟨"to_item_content", ["content"], [], ["is_input"]⟩

/-- The direction that is asked for. -/
def ofFields (given : Fields) : Except Failure Direction :=
  match signature.fault? given with
  | some f => .error (.misuse (.call f))
  | none => .ok (if ((given.get? "is_input").getD .null).isVoid then .output else .input)

end Direction

namespace Part

/-! ### From contents -/

def ofImage (uri : String) (detail : Option String) : Part :=
  plain (.inputImage (some uri) none detail)

def ofAudio (uri : String) (mediaType : Option String) : Part :=
  plain (.inputAudio uri (some (Content.audioFormat mediaType)))

def ofFile (uri : String) (name : Option String) : Part :=
  plain (.inputFile none (some uri) none name)

def ofHostedFile (id : String) : Part := plain (.inputFile (some id) none none none)

def ofError (message : Option String) : Part := plain (.refusal (message.getD ""))

def refusedReasoning : String :=
  "Reasoning content cannot be used as input content. It represents reasoning output from the model, not user input."

def refusedError : String :=
  "Error content cannot be used as input content. It represents errors or refusals from the model, not user input."

/-- The part that a content becomes, if any, or why it is refused. -/
def ofContent (direction : Direction) (c : Content) : Except Report (Option Part) :=
  match c.body with
  | .text s =>
    match direction with
    | .input => .ok (some (plain (.inputText s)))
    | .output => .ok (some (outputText s))
  | .reasoning s =>
    match direction with
    | .input => .error (.contentConversion refusedReasoning)
    | .output => .ok (some (outputText s))
  | .error message _ _ =>
    match direction with
    | .input => .error (.contentConversion refusedError)
    | .output => .ok (some (ofError message))
  | .hostedFile id => .ok (some (ofHostedFile id))
  | .data uri mediaType name =>
    if c.isImage then .ok (some (ofImage uri c.detail?))
    else if c.isFile then .ok (some (ofFile uri name))
    else .ok (some (ofAudio uri mediaType))
  | .uri uri _ => .ok (if c.isImage then some (ofImage uri c.detail?) else none)
  | _ => .ok none

/-! ### To contents -/

def nonempty (s : Option String) : Option String := s.filter fun s => !s.isEmpty

/-- Whether a link holds its data inline. -/
def isInline (uri : String) : Bool :=
  "data:".toList.isPrefixOf (Text.lower uri).toList

def detailProperties (detail : Option String) : Option Fields :=
  detail.map fun d => [("detail", .text d)]

/-- The content that a part stands for, if any. -/
def toContent (p : Part) : Option Content :=
  match p.body with
  | .inputText s => some (.ofText s)
  | .outputText s _ _ => some (.ofText s)
  | .refusal s => some ⟨none, .error (some s) none none⟩
  | .inputImage imageUrl fileId detail =>
    match nonempty imageUrl, nonempty fileId with
    | some url, _ =>
      if isInline url then some (.ofData (detailProperties detail) url (some "image/*") none)
      else some ⟨detailProperties detail, .uri url (some "image/*")⟩
    | none, some id => some ⟨detailProperties detail, .hostedFile id⟩
    | none, none => none
  | .inputFile fileId fileData _ filename =>
    match nonempty fileId, nonempty fileData with
    | some id, _ => some ⟨none, .hostedFile id⟩
    | none, some data => some (.ofData none data (some "application/octet-stream") filename)
    | none, none => none
  | .inputAudio data format => some (.ofData none data (some (Content.mediaTypeOfFormat format)) none)
  | .outputAudio data _ => some (.ofData none data (some "audio/*") none)

end Part
end AgentGateway
