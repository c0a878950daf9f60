import AgentGateway.Schema.Shape

/-! Content parts, the pieces of a message on the wire.

A part keeps the fields that it does not know, after those that it does. An audio
part may wrap its fields in an object of its own; they are then taken over the
part's other fields. -/
namespace AgentGateway

inductive Part.Body where
  | inputText (text : String)
  | outputText (text : String) (annotations logprobs : List Value)
  | refusal (refusal : String)
  | inputImage (imageUrl fileId detail : Option String)
  | inputFile (fileId fileData fileUrl filename : Option String)
  | inputAudio (data : String) (format : Option String)
  | outputAudio (data : String) (transcript : Option String)
deriving DecidableEq, Repr

structure Part where
  body : Part.Body
  extra : Fields
deriving DecidableEq, Repr

namespace Part

def plain (body : Body) : Part := ⟨body, []⟩

def outputText (s : String) : Part := plain (.outputText s [] [])

def tag : Body → String
  | .inputText _ => "input_text"
  | .outputText .. => "output_text"
  | .refusal _ => "refusal"
  | .inputImage .. => "input_image"
  | .inputFile .. => "input_file"
  | .inputAudio .. => "input_audio"
  | .outputAudio .. => "output_audio"

/-! ### Documents -/

section
open Schema

/-- The fields of a part of one kind: its tag, then its own, then those not known. -/
def readKind (kind : String) (fs : Fields) (known : List String) (body : Checked Body) :
    Checked Part :=
  keeping (fun fs => (fun _ body => ⟨body, fs.without ("type" :: known)⟩)
    <$> optional fs "type" (literal kind) () <*> body) fs

def readInputText (fs : Fields) : Checked Part :=
  readKind "input_text" fs ["text"] (.inputText <$> optional fs "text" text "")

def readOutputText (fs : Fields) : Checked Part :=
  readKind "output_text" fs ["text", "annotations", "logprobs"]
    (.outputText <$> optional fs "text" text "" <*> optional fs "annotations" (list any) []
      <*> optional fs "logprobs" (list any) [])

def readRefusal (fs : Fields) : Checked Part :=
  readKind "refusal" fs ["refusal"] (.refusal <$> optional fs "refusal" text "")

def readInputImage (fs : Fields) : Checked Part :=
  readKind "input_image" fs ["image_url", "file_id", "detail"]
    (.inputImage <$> maybe fs "image_url" text <*> maybe fs "file_id" text
      <*> maybe fs "detail" text)

def readInputFile (fs : Fields) : Checked Part :=
  readKind "input_file" fs ["file_id", "file_data", "file_url", "filename"]
    (.inputFile <$> maybe fs "file_id" text <*> maybe fs "file_data" text
      <*> maybe fs "file_url" text <*> maybe fs "filename" text)

/-- An audio part's fields, with those of a wrapping object put over them. -/
def unwrapAudio (fs : Fields) : Fields :=
  match fs.get? "input_audio" with
  | some (.object inner) => (fs.without ["input_audio"]).merge inner
  | _ => fs

theorem unwrapAudio_wrapped {fs inner : Fields}
    (h : Keyed.get? fs "input_audio" = some (.object inner)) :
    unwrapAudio fs = (fs.without ["input_audio"]).merge inner := by
  rw [unwrapAudio, h]

theorem unwrapAudio_eq_self {fs : Fields}
    (h : ∀ inner, Keyed.get? fs "input_audio" ≠ some (.object inner)) : unwrapAudio fs = fs := by
  unfold unwrapAudio
  split
  · exact absurd ‹_› (h _)
  · rfl

def readInputAudio (fs : Fields) : Checked Part :=
  let fs := unwrapAudio fs
  readKind "input_audio" fs ["data", "format"]
    (.inputAudio <$> required fs "data" text <*> maybe fs "format" text)

def readOutputAudio (fs : Fields) : Checked Part :=
  readKind "output_audio" fs ["data", "transcript"]
    (.outputAudio <$> required fs "data" text <*> maybe fs "transcript" text)

/-- The readers by tag. -/
def readers : List (String × (Fields → Checked Part)) :=
  [("input_text", readInputText), ("output_text", readOutputText), ("refusal", readRefusal),
    ("input_image", readInputImage), ("input_file", readInputFile),
    ("input_audio", readInputAudio), ("output_audio", readOutputAudio)]

def read : Value → Checked Part := tagged readers

end

def writeBody : Body → Fields
  | .inputText s => [("text", .text s)]
  | .outputText s annotations logprobs =>
    [("text", .text s), ("annotations", .list (Value.onWireList annotations)),
      ("logprobs", .list (Value.onWireList logprobs))]
  | .refusal s => [("refusal", .text s)]
  | .inputImage imageUrl fileId detail =>
    [("image_url", .ofText? imageUrl), ("file_id", .ofText? fileId), ("detail", .ofText? detail)]
  | .inputFile fileId fileData fileUrl filename =>
    [("file_id", .ofText? fileId), ("file_data", .ofText? fileData), ("file_url", .ofText? fileUrl),
      ("filename", .ofText? filename)]
  | .inputAudio data format => [("data", .text data), ("format", .ofText? format)]
  | .outputAudio data transcript => [("data", .text data), ("transcript", .ofText? transcript)]

def write (p : Part) : Value :=
  .object (("type", .text (tag p.body)) :: (writeBody p.body ++ Value.onWireFields p.extra))

/-- The parts of unknown shape. -/
def loose (p : Part) : List Value :=
  match p.body with
  | .outputText _ annotations logprobs => annotations ++ logprobs ++ p.extra.values
  | _ => p.extra.values

end Part
end AgentGateway
