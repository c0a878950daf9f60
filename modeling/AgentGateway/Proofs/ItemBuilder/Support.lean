import AgentGateway.ItemBuilder

/-! Which contents a kind of builder supports, and what it tells of them.

No content is supported by two kinds: `supports_iff` says which one it is, so a table of
kinds finds the same one in whatever order it is searched. A text builder supports texts. Every
other kind supports contents that are told whole: `opening_whole` says as what. -/
namespace AgentGateway.BuilderKind
open ItemBuilder

/-! ### The kind for a content -/

/-- The kind of builder that supports a content, if one does. -/
def of? (c : Content) : Option BuilderKind :=
  match c.body with
  | .text _ => some text
  | .functionCall .. => some functionCall
  | .functionResult .. => some functionResult
  | .data .. => some (if c.isImage then image else if c.isAudio then audio else file)
  | .uri .. => if c.isImage then some image else none
  | .hostedFile _ => some hostedFile
  | .error .. => some error
  | .reasoning _ | .usage _ => none

/-- The kinds are pairwise disjoint, and together they support all but reasoning, token counts and
links that are no images. -/
theorem supports_iff {k : BuilderKind} {c : Content} : k.supports c = true ↔ of? c = some k := by
  have hdisjoint : c.isAudio = true → c.isImage = false := Content.not_isImage_of_isAudio
  obtain ⟨properties, body⟩ := c
  cases body with
  | data uri mediaType name =>
    cases hi : Content.hasTopLevel mediaType "image" <;>
      cases ha : Content.hasTopLevel mediaType "audio" <;>
      cases k <;>
      simp [supports, Content.kindName, of?, Content.isImage, Content.isAudio, Content.isFile, hi,
        ha] at hdisjoint ⊢
  | uri uri mediaType =>
    cases hi : Content.hasTopLevel mediaType "image" <;>
      cases k <;>
      simp [supports, Content.kindName, of?, Content.isImage, Content.isAudio, Content.isFile, hi]
  | _ =>
    cases k <;>
      simp [supports, Content.kindName, of?, Content.isImage, Content.isAudio, Content.isFile]

theorem supports_of_text {c : Content} {s : String} (hc : c.body = .text s) (k : BuilderKind) :
    k.supports c = (k == .text) := by
  have hkind : of? c = some text := by simp only [of?, hc]
  rw [Bool.eq_iff_iff, supports_iff, hkind, beq_iff_eq, Option.some_inj]
  exact eq_comm

theorem not_text_of_supports {k : BuilderKind} {c : Content} (hs : k.supports c = true)
    (hk : k ≠ .text) (s : String) : c.body ≠ .text s := by
  intro hc
  rw [supports_of_text hc, beq_iff_eq] at hs
  exact hk hs

/-- No kind supports token counts. -/
theorem not_usage_of_supports {k : BuilderKind} {c : Content} (hs : k.supports c = true)
    (details : Option Usage) : c.body ≠ .usage details := by
  intro hc
  have hkind : of? c = none := by simp only [of?, hc]
  rw [supports_iff, hkind] at hs
  cases hs

/-! ### Whether some kind supports a content -/

/-- Whether some kind supports a content. -/
def supported (kinds : List BuilderKind) (c : Content) : Bool := kinds.any fun k => k.supports c

section
variable {kinds : List BuilderKind} {c : Content}

theorem supported_of_supports {k : BuilderKind} (hk : k ∈ kinds) (hs : k.supports c = true) :
    supported kinds c = true := List.any_eq_true.mpr ⟨k, hk, hs⟩

theorem supported_eq_false_iff :
    supported kinds c = false ↔ ∀ k ∈ kinds, k.supports c = false := by
  simp [supported]

theorem supported_eq_false (h : ∀ k ∈ kinds, k.supports c = false) :
    supported kinds c = false := supported_eq_false_iff.mpr h

theorem supported_text {s : String} (hc : c.body = .text s) (hk : .text ∈ kinds) :
    supported kinds c = true := supported_of_supports hk (supports_text_iff.mpr ⟨s, hc⟩)

theorem not_mem_of_unsupported_text {s : String} (hc : c.body = .text s)
    (h : ∀ k ∈ kinds, k.supports c = false) : .text ∉ kinds := by
  intro hk
  have hs := h .text hk
  rw [supports_text_iff.mpr ⟨s, hc⟩] at hs
  cases hs

/-- The limit that ends a run where a content has to be told. One that no kind supports is not. -/
def limit? (kinds : List BuilderKind) (c : Content) : Option Limit :=
  if supported kinds c then c.limit? else none

theorem limit?_of_supported (h : supported kinds c = true) : limit? kinds c = c.limit? := if_pos h

theorem limit?_of_unsupported (h : ∀ k ∈ kinds, k.supports c = false) : limit? kinds c = none := by
  rw [limit?, supported_eq_false h]
  rfl

theorem limit?_of_spelled (h : c.limit? = none) : limit? kinds c = none := by
  simp [limit?, h]

theorem limit?_of_text {s : String} (hc : c.body = .text s) : limit? kinds c = none := by
  simp [limit?, Content.limit?, Content.isImage, hc]

theorem limit?_of_usage {details : Option Usage} (hc : c.body = .usage details) :
    limit? kinds c = none := by
  simp [limit?, Content.limit?, Content.isImage, hc]

end

/-! ### What is told -/

/-- A content that is told whole is a call, a result, or one part. -/
theorem opening_whole {k : BuilderKind} {c : Content} (hs : k.supports c = true) (ht : k ≠ .text)
    (index : Int) (id : String) :
    (∃ callId name arguments, c.body = .functionCall callId name arguments ∧
        opening k index id c = callBlock index id callId name (serializeArguments arguments)) ∨
      (∃ callId result failure, c.body = .functionResult callId result failure ∧
        opening k index id c =
          outputBlock index id callId (Content.resultText result failure)) ∨
      ∃ part, k.part? c = some part ∧ opening k index id c = partBlock index id part := by
  obtain ⟨properties, body⟩ := c
  cases k with
  | text => exact absurd rfl ht
  | functionCall =>
    cases body with
    | functionCall callId name arguments => exact .inl ⟨callId, name, arguments, rfl, rfl⟩
    | _ => simp [supports, Content.kindName] at hs
  | functionResult =>
    cases body with
    | functionResult callId result failure =>
      exact .inr (.inl ⟨callId, result, failure, rfl, rfl⟩)
    | _ => simp [supports, Content.kindName] at hs
  | image =>
    cases body with
    | data | uri => exact .inr (.inr ⟨_, rfl, rfl⟩)
    | _ => simp [supports, Content.isImage] at hs
  | audio | file =>
    cases body with
    | data => exact .inr (.inr ⟨_, rfl, rfl⟩)
    | _ => simp [supports, Content.isAudio, Content.isFile] at hs
  | hostedFile =>
    cases body with
    | hostedFile => exact .inr (.inr ⟨_, rfl, rfl⟩)
    | _ => simp [supports, Content.kindName] at hs
  | error =>
    cases body with
    | error => exact .inr (.inr ⟨_, rfl, rfl⟩)
    | _ => simp [supports, Content.kindName] at hs

/-- A kind makes the part of a content that the content is shown as everywhere else. -/
theorem ofContent_of_part {k : BuilderKind} {c : Content} {part : Part} (hs : k.supports c = true)
    (hp : k.part? c = some part) : Part.ofContent .output c = .ok (some part) := by
  obtain ⟨properties, body⟩ := c
  cases k with
  | text | functionCall | functionResult => cases hp
  | image =>
    cases body with
    | data | uri =>
      simp only [supports] at hs
      cases hp
      simp [Part.ofContent, hs]
    | _ => cases hp
  | audio =>
    cases body with
    | data uri mediaType name =>
      simp only [supports] at hs
      cases hp
      have himage := Content.not_isImage_of_isAudio hs
      have hfile : Content.isFile ⟨properties, .data uri mediaType name⟩ = false := by
        simp only [Content.isAudio] at hs
        simp only [Content.isFile, hs, Bool.not_true, Bool.and_false]
      simp only [Part.ofContent, himage, hfile, Bool.false_eq_true, if_false]
    | _ => cases hp
  | file =>
    cases body with
    | data =>
      simp only [supports, Content.isFile, Bool.and_eq_true, Bool.not_eq_true'] at hs
      cases hp
      simp [Part.ofContent, Content.isImage, Content.isFile, hs]
    | _ => cases hp
  | hostedFile =>
    cases body with
    | hostedFile =>
      cases hp
      rfl
    | _ => cases hp
  | error =>
    cases body with
    | error =>
      cases hp
      rfl
    | _ => cases hp

end AgentGateway.BuilderKind
