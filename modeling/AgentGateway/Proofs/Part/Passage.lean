import AgentGateway.Proofs.ItemBuilder.Support

/-! Parts that pass through a content and come back.

The agent sees a part as a content, and as input that content becomes a part again. What kind of
part it was is told by a media type alone: pictures go as `image/*`, files as
`application/octet-stream` and sounds under the media type of their format. None of them is taken
for another kind on the way back, and only a refusal does not come back at all. A part comes back
as it was exactly if it says nothing that a content has no place for (`comes_back_iff`). -/
namespace AgentGateway

namespace Content

/-! ### Media types that parts are given -/

/-- The formats that sounds have on the wire. -/
def formatNames : List String := audioFormats.map (·.2)

theorem audioFormat_mem (mediaType : Option String) : audioFormat mediaType ∈ formatNames := by
  have hdefault : defaultAudioFormat ∈ formatNames := by decide
  unfold audioFormat
  split
  · exact hdefault
  · split
    · rename_i subtype _
      rcases hfound : audioFormats.lookup (Text.lower (String.ofList subtype)) with _ | format
      · exact hdefault
      · obtain ⟨before, after, hsplit, -⟩ := List.lookup_eq_some_iff.mp hfound
        show format ∈ audioFormats.map (·.2)
        rw [hsplit]
        simp
    · exact hdefault

theorem audioFormat_mediaTypeOfFormat :
    ∀ format ∈ formatNames, audioFormat (some (mediaTypeOfFormat (some format))) = format := by
  decide

/-- Whatever its format, a sound's media type is one of sounds. -/
theorem hasTopLevel_mediaTypeOfFormat (format : Option String) :
    hasTopLevel (some (mediaTypeOfFormat format)) "audio" = true := by
  have hknown : ∀ e ∈ audioFormats, hasTopLevel (some ("audio/" ++ e.1)) "audio" = true := by
    decide
  unfold mediaTypeOfFormat
  rcases hfound : audioFormats.find? fun e => e.2 == Text.lower (format.getD "") with _ | e
  · simp only [hfound]
    decide
  · simp only [hfound]
    exact hknown e (List.mem_of_find?_eq_some hfound)

/-- Inline data under a media type that is given. -/
theorem ofData_given (properties : Option Fields) (uri : String) {mediaType : String}
    (name : Option String) (h : mediaType ≠ "") :
    ofData properties uri (some mediaType) name =
      ⟨properties, .data uri (some mediaType) name⟩ := by
  simp [ofData, isSet, h]

theorem ne_empty_of_hasTopLevel {mediaType name : String}
    (h : hasTopLevel (some mediaType) name = true) : mediaType ≠ "" := by
  rintro rfl
  simp [hasTopLevel] at h

/-- A level of detail is found again among the properties that it was put in. -/
theorem detail?_detailProperties (detail : Option String) (body : Body) :
    detail? ⟨Part.detailProperties detail, body⟩ = detail := by
  rcases detail with _ | d <;> rfl

/-! ### What contents refer to -/

/-- Where something that is no text is found. -/
inductive Reference where
  | address (uri : String)
  | file (id : String)
deriving DecidableEq, Repr

def reference? (c : Content) : Option Reference :=
  match c.body with
  | .data uri _ _ | .uri uri _ => some (.address uri)
  | .hostedFile id => some (.file id)
  | _ => none

end Content

namespace Part

/-! ### What inline data comes back as -/

/-- Inline data is one of three parts, by its media type. -/
theorem ofContent_data {c : Content} {uri : String} {mediaType name : Option String}
    (hc : c.body = .data uri mediaType name) (direction : Direction) :
    ofContent direction c = .ok (some
      (if c.isImage then ofImage uri c.detail?
      else if c.isAudio then ofAudio uri mediaType
      else ofFile uri name)) := by
  have hfile : c.isFile = (!c.isImage && !c.isAudio) := by
    simp only [Content.isFile, Content.isImage, Content.isAudio, hc]
  have haudio := @Content.not_isImage_of_isAudio c
  simp only [ofContent, hc, hfile]
  by_cases hi : c.isImage = true
  · simp [hi]
  · by_cases ha : c.isAudio = true <;> simp [hi, ha]

/-- A picture, inline or behind a link, comes back as a picture. -/
theorem toContent_image {url : String} (h : url ≠ "") (fileId detail : Option String)
    (extra : Fields) :
    ∃ c, toContent ⟨.inputImage (some url) fileId detail, extra⟩ = some c ∧
      c.text? = none ∧ c.reference? = some (.address url) ∧
      ofContent .input c = .ok (some (ofImage url detail)) := by
  have hurl : nonempty (some url) = some url := by simp [nonempty, h]
  have hpicture : Content.hasTopLevel (some "image/*") "image" = true := by decide
  by_cases hinline : isInline url = true
  · have himage : Content.isImage
        ⟨detailProperties detail, .data url (some "image/*") none⟩ = true := hpicture
    refine ⟨⟨detailProperties detail, .data url (some "image/*") none⟩, ?_, rfl, rfl, ?_⟩
    · simp [toContent, hurl, hinline, Content.ofData_given]
    · rw [ofContent_data rfl, if_pos himage, Content.detail?_detailProperties]
  · have himage : Content.isImage
        ⟨detailProperties detail, .uri url (some "image/*")⟩ = true := hpicture
    refine ⟨⟨detailProperties detail, .uri url (some "image/*")⟩, ?_, rfl, rfl, ?_⟩
    · simp [toContent, hurl, hinline]
    · simp only [ofContent, himage, if_true, Content.detail?_detailProperties]

theorem ofContent_octets (data : String) (name : Option String) :
    ofContent .input ⟨none, .data data (some "application/octet-stream") name⟩ =
      .ok (some (ofFile data name)) := by
  have himage : Content.hasTopLevel (some "application/octet-stream") "image" = false := by decide
  have haudio : Content.hasTopLevel (some "application/octet-stream") "audio" = false := by decide
  rw [ofContent_data rfl]
  simp [Content.isImage, Content.isAudio, himage, haudio]

theorem ofContent_sound {mediaType : String} (data : String)
    (h : Content.hasTopLevel (some mediaType) "audio" = true) :
    ofContent .input ⟨none, .data data (some mediaType) none⟩ =
      .ok (some (ofAudio data (some mediaType))) := by
  have haudio : Content.isAudio ⟨none, .data data (some mediaType) none⟩ = true := h
  rw [ofContent_data rfl, if_neg (by simp [Content.not_isImage_of_isAudio haudio]),
    if_pos haudio]

/-! ### What comes back of a part -/

/-- A part that says nothing that a content has no place for: a text, a picture by its address, a
file by its identifier alone or by its data and its name, or a sound in one of the formats. -/
inductive Whole : Body → Prop where
  | text (s : String) : Whole (.inputText s)
  | picture {url : String} (h : url ≠ "") (detail : Option String) :
      Whole (.inputImage (some url) none detail)
  | hosted {id : String} (h : id ≠ "") : Whole (.inputFile (some id) none none none)
  | file {data : String} (h : data ≠ "") (name : Option String) :
      Whole (.inputFile none (some data) none name)
  | sound (data : String) {format : String} (h : format ∈ Content.formatNames) :
      Whole (.inputAudio data (some format))

theorem nonempty_eq_some {s : Option String} {t : String} :
    nonempty s = some t ↔ s = some t ∧ t ≠ "" := by
  simp [nonempty, Option.filter_eq_some_iff]

/-- What the agent sees of a part, other than a refusal, becomes such a part as input. -/
theorem whole_of_toContent {p : Part} {c : Content} (h : p.toContent = some c)
    (hp : ∀ s, p.body ≠ .refusal s) :
    ∃ body, ofContent .input c = .ok (some (plain body)) ∧ Whole body := by
  obtain ⟨body, extra⟩ := p
  cases body with
  | inputText s | outputText s =>
    obtain rfl := Option.some.inj h
    exact ⟨_, rfl, .text s⟩
  | refusal s => exact absurd rfl (hp s)
  | inputImage imageUrl fileId detail =>
    rcases hurl : nonempty imageUrl with _ | url
    · rcases hid : nonempty fileId with _ | id
      · simp [toContent, hurl, hid] at h
      · simp only [toContent, hurl, hid, Option.some.injEq] at h
        subst h
        exact ⟨_, rfl, .hosted (nonempty_eq_some.mp hid).2⟩
    · obtain ⟨rfl, hne⟩ := nonempty_eq_some.mp hurl
      obtain ⟨c', hc', -, -, hback⟩ := toContent_image hne fileId detail extra
      obtain rfl := Option.some.inj (h.symm.trans hc')
      exact ⟨_, hback, .picture hne detail⟩
  | inputFile fileId fileData fileUrl filename =>
    rcases hid : nonempty fileId with _ | id
    · rcases hdata : nonempty fileData with _ | data
      · simp [toContent, hid, hdata] at h
      · simp only [toContent, hid, hdata, Option.some.injEq] at h
        rw [Content.ofData_given none data filename (by decide)] at h
        subst h
        exact ⟨_, ofContent_octets data filename, .file (nonempty_eq_some.mp hdata).2 filename⟩
    · simp only [toContent, hid, Option.some.injEq] at h
      subst h
      exact ⟨_, rfl, .hosted (nonempty_eq_some.mp hid).2⟩
  | inputAudio data format =>
    have haudio := Content.hasTopLevel_mediaTypeOfFormat format
    simp only [toContent, Option.some.injEq] at h
    rw [Content.ofData_given none data none (Content.ne_empty_of_hasTopLevel haudio)] at h
    subst h
    exact ⟨_, ofContent_sound data haudio, .sound data (Content.audioFormat_mem _)⟩
  | outputAudio data transcript =>
    have haudio : Content.hasTopLevel (some "audio/*") "audio" = true := by decide
    simp only [toContent, Option.some.injEq] at h
    rw [Content.ofData_given none data none (by decide)] at h
    subst h
    exact ⟨_, ofContent_sound data haudio, .sound data (Content.audioFormat_mem _)⟩

/-- Such a part comes back as it was. -/
theorem Whole.comes_back {body : Body} (h : Whole body) :
    ∃ c, (plain body).toContent = some c ∧ ofContent .input c = .ok (some (plain body)) := by
  cases h with
  | text s => exact ⟨_, rfl, rfl⟩
  | picture h detail =>
    obtain ⟨c, hc, -, -, hback⟩ := toContent_image h none detail []
    exact ⟨c, hc, hback⟩
  | @hosted id h =>
    have hid : nonempty (some id) = some id := nonempty_eq_some.mpr ⟨rfl, h⟩
    exact ⟨⟨none, .hostedFile id⟩, by simp [toContent, plain, hid], rfl⟩
  | @file data h name =>
    have hdata : nonempty (some data) = some data := nonempty_eq_some.mpr ⟨rfl, h⟩
    have hnone : nonempty none = none := rfl
    refine ⟨⟨none, .data data (some "application/octet-stream") name⟩, ?_,
      ofContent_octets data name⟩
    simp [toContent, plain, hdata, hnone, Content.ofData_given]
  | @sound data format h =>
    have haudio := Content.hasTopLevel_mediaTypeOfFormat (some format)
    refine ⟨⟨none, .data data (some (Content.mediaTypeOfFormat (some format))) none⟩, ?_, ?_⟩
    · simp [toContent, plain, Content.ofData_given, Content.ne_empty_of_hasTopLevel haudio]
    · rw [ofContent_sound data haudio, ofAudio, Content.audioFormat_mediaTypeOfFormat format h]

/-- **Parts come back.** A part that becomes a content comes back from it as input exactly if it
is no refusal; and it comes back as the very part that it was exactly if a content has a place for
all that it says and it has no fields besides its own. -/
theorem comes_back_iff (p : Part) :
    ((∃ c, p.toContent = some c ∧ ofContent .input c = .ok (some p)) ↔
        Whole p.body ∧ p.extra = []) ∧
      ∀ c, p.toContent = some c →
        ((∃ q, ofContent .input c = .ok (some q)) ↔ ∀ s, p.body ≠ .refusal s) := by
  have hrefusal {c : Content} {s : String} (hc : p.toContent = some c) (hp : p.body = .refusal s)
      (q : Part) : ofContent .input c ≠ .ok (some q) := by
    simp only [toContent, hp, Option.some.injEq] at hc
    subst hc
    simp [ofContent]
  refine ⟨⟨?_, ?_⟩, fun c hc => ⟨?_, ?_⟩⟩
  · rintro ⟨c, hc, hback⟩
    obtain ⟨body, hbody, hwhole⟩ := whole_of_toContent hc fun s hp => hrefusal hc hp p hback
    rw [hback] at hbody
    obtain rfl : p = plain body := by simpa using hbody
    exact ⟨hwhole, rfl⟩
  · rintro ⟨hwhole, hextra⟩
    obtain ⟨body, extra⟩ := p
    obtain rfl : extra = [] := hextra
    exact hwhole.comes_back
  · rintro ⟨q, hback⟩ s hp
    exact hrefusal hc hp q hback
  · intro hp
    obtain ⟨body, hbody, -⟩ := whole_of_toContent hc hp
    exact ⟨plain body, hbody⟩

/-- A sound in a format that is not known comes back, but not as it was. -/
theorem ogg_comes_back :
    let sound := plain (.inputAudio "AAAA" (some "ogg"))
    ∃ c, sound.toContent = some c ∧ (∃ q, ofContent .input c = .ok (some q)) ∧
      ofContent .input c ≠ .ok (some sound) := by
  intro sound
  obtain ⟨hsame, hback⟩ := comes_back_iff sound
  have hc : sound.toContent = some ⟨none, .data "AAAA" (some "audio/*") none⟩ := by decide
  refine ⟨_, hc, (hback _ hc).mpr (by simp [sound, plain]), fun h => ?_⟩
  obtain ⟨hwhole, -⟩ := hsame.mp ⟨_, hc, h⟩
  cases hwhole with
  | sound _ hformat => exact absurd hformat (by decide)

end Part
end AgentGateway
