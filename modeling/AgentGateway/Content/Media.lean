import AgentGateway.Content
import AgentGateway.Json.Writer
import AgentGateway.Text.Casing

/-! Which contents are images, audio and files, and how results read as text.

A media type is told by what stands before its first slash, in any case. Inline
data is exactly one of image, audio and file; a link is an image or nothing. -/
namespace AgentGateway.Content

/-- What stands before the first slash. -/
def topLevel (mediaType : String) : String :=
  String.ofList (mediaType.toList.takeWhile (· != '/'))

def hasTopLevel (mediaType : Option String) (name : String) : Bool :=
  match mediaType with
  | none => false
  | some m => !m.isEmpty && Text.lower (topLevel m) == Text.lower name

def isImage (c : Content) : Bool :=
  match c.body with
  | .data _ mediaType _ => hasTopLevel mediaType "image"
  | .uri _ mediaType => hasTopLevel mediaType "image"
  | _ => false

def isAudio (c : Content) : Bool :=
  match c.body with
  | .data _ mediaType _ => hasTopLevel mediaType "audio"
  | _ => false

def isFile (c : Content) : Bool :=
  match c.body with
  | .data _ mediaType _ => !hasTopLevel mediaType "image" && !hasTopLevel mediaType "audio"
  | _ => false

/-- No media type is one of an image and one of an audio. -/
theorem not_isImage_of_isAudio {c : Content} (h : c.isAudio = true) : c.isImage = false := by
  obtain ⟨properties, body⟩ := c
  cases body with
  | data uri mediaType name =>
    cases mediaType with
    | none => rfl
    | some m =>
      have hne : Text.lower "audio" ≠ Text.lower "image" := by decide
      simp only [isAudio, isImage, hasTopLevel, Bool.and_eq_true, beq_iff_eq] at h ⊢
      rw [h.2, Bool.and_eq_false_iff]
      exact .inr (beq_eq_false_iff_ne.mpr hne)
  | _ => cases h

/-- The level of detail asked for in a content's properties. -/
def level? (c : Content) : Option Value := (c.properties.bind (·.get? "detail")).bind Value.present?

/-- The level of detail as a part tells it, for one that can be shown (`Content.limit?`). -/
def detail? (c : Content) : Option String := c.level?.map Value.display

/-! ### Audio formats -/

/-- Audio media subtypes with the format that each is called on the wire. -/
def audioFormats : List (String × String) :=
  [("mpeg", "mp3"), ("wav", "wav"), ("opus", "opus"), ("aac", "aac"), ("flac", "flac"),
    ("pcm", "pcm16")]

def defaultAudioFormat : String := "mp3"

/-- The wire format of a media type, by what stands after its first slash. -/
def audioFormat (mediaType : Option String) : String :=
  match mediaType with
  | none => defaultAudioFormat
  | some m =>
    match m.toList.dropWhile (· != '/') with
    | _ :: subtype => (audioFormats.lookup (Text.lower (String.ofList subtype))).getD defaultAudioFormat
    | [] => defaultAudioFormat

/-- The media type of a wire format; any other is some audio. -/
def mediaTypeOfFormat (format : Option String) : String :=
  let name := Text.lower (format.getD "")
  match audioFormats.find? fun e => e.2 == name with
  | some e => "audio/" ++ e.1
  | none => "audio/*"

/-! ### Results as text -/

/-- How a function result is reported: a failure by its name and text, nothing as
`(null)`, a text as it is, lists and objects as JSON. This is the text of a result that has one
(`Content.limit?`). -/
def resultText (result : Value) : Option Failure → String
  | some f => s!"{f.name}(\"{f.text}\")"
  | none =>
    match result with
    | .null => "(null)"
    | .text s => s
    | .list xs => Json.write Json.spaced (.list xs)
    | .object fs => Json.write Json.spaced (.object fs)
    | v => v.display

/-- The limit that stands in the way of an answer that has a content in it: the arguments of a call
and the result of a function are spelled there, and so is the level of detail of an image. -/
def limit? (c : Content) : Option Limit :=
  match c.body with
  | .functionCall _ _ arguments => (Value.ofOption .object arguments).limit? .encoding
  | .functionResult _ _ (some f) => f.limit?
  | .functionResult _ result none => result.limit? .encoding
  | _ => if c.isImage then c.level?.bind (Value.limit? .showing) else none

/-- Nothing, or the failure of spelling a content. -/
def spelled (c : Content) : Except Failure Unit :=
  match c.limit? with
  | some l => .error (.ofLimit l)
  | none => .ok ()

end AgentGateway.Content
