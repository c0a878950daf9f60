import AgentGateway.Proofs.Part.Return
import AgentGateway.Proofs.Request.Reading

/-! Requests that are read from what was written of them.

A first reading puts a request in order: numbers and truth values that came as something else,
a conversation given by its identifier alone, a schema under its long key, the wrapping of audio.
`comes_back_iff_settled` says when a second one finds the same request: unless it cannot go out
at all, it comes back exactly if it is settled. What unsettles it is an object left among the
fields that an audio part keeps, which is taken for one more wrapping, and a key without an
encoding where keys are made texts. -/
namespace AgentGateway
open Schema

/-! ### What a request refers to -/

theorem AgentReference.returns : Returns read write fun _ => True := by
  intro v a hv hread
  obtain ⟨fs, rfl, hfields⟩ := model_eq_ok_iff.mp hread
  obtain ⟨hkeeps, -, hname, hversion⟩ := readFields_eq_ok_iff.mp hfields
  refine iff_true_intro (readFields_eq_ok_iff.mpr
    ⟨(Kept.of_keeps hv hkeeps).keeps rfl (by decide), ?_, ?_, ?_⟩)
  · simp [Schema.optional, Keyed.get?, literal, oneOf, Checked.under]
  · exact Returns.text.required_again hv hname (by simp [Keyed.get?])
  · exact Returns.text.maybe_again hv (by simp) hversion (by simp [Keyed.get?, Value.ofText?])

theorem Reasoning.returns_word (words : List String) :
    Returns (word words) .text fun _ => True := Returns.words .notLiteral words

theorem Reasoning.returns : Returns read write fun _ => True := by
  intro v r hv hread
  obtain ⟨fs, rfl, hfields⟩ := model_eq_ok_iff.mp hread
  obtain ⟨hkeeps, heffort, hgenerate, hsummary⟩ := readFields_eq_ok_iff.mp hfields
  refine iff_true_intro (readFields_eq_ok_iff.mpr
    ⟨(Kept.of_keeps hv hkeeps).keeps rfl (by decide), ?_, ?_, ?_⟩)
  · exact (returns_word efforts).maybe_again hv (by simp) heffort
      (by simp [Keyed.get?, Value.ofText?])
  · exact (returns_word summaries).maybe_again hv (by simp) hgenerate
      (by simp [Keyed.get?, Value.ofText?])
  · exact (returns_word summaries).maybe_again hv (by simp) hsummary
      (by simp [Keyed.get?, Value.ofText?])

namespace ConversationReference

/-- Texts under keys come back where the keys can be encoded. -/
theorem returns_metadata : Returns (dict text) writeMetadata KeysEncodable := by
  intro v m hv hread
  obtain rfl := dict_text_eq_ok_iff.mp hread
  rw [dict_text_eq_ok_iff, writeMetadata, Value.underTexts_eq_self_iff hv.wellKeyed]
  simp [KeysEncodable, Keyed.keys]

theorem writeMetadata_ne_null (m : Keyed String) : writeMetadata m ≠ .null := by
  simp [writeMetadata, Value.underTexts, Value.ofPairs]

theorem returns : Returns read write fun c => ∀ m ∈ c.metadata, KeysEncodable m := by
  intro v c hv hread
  obtain ⟨fs, rfl, hfields⟩ := model_eq_ok_iff.mp hread
  obtain ⟨hkeeps, hid, hmetadata⟩ := readFields_eq_ok_iff.mp hfields
  refine readFields_eq_ok_iff.trans
    ((and_iff_right ((Kept.of_keeps hv hkeeps).keeps rfl (by decide))).trans ?_)
  rw [Returns.text.required hv hid, returns_metadata.maybe writeMetadata_ne_null hv hmetadata,
    true_and]
  all_goals simp [Keyed.get?]

/-- An identifier alone is read as the conversation that it stands for. -/
theorem returns_loose : Returns readLoose write fun c => ∀ m ∈ c.metadata, KeysEncodable m := by
  intro v c hv hread
  have hwrite : readLoose c.write = read c.write := rfl
  rw [hwrite]
  unfold readLoose at hread
  split at hread
  · rename_i id
    obtain rfl := Checked.ok.inj hread
    have hkept : Kept ["id", "metadata"] [] :=
      ⟨by simp [KeysEncodable, Keyed.keys], by simp [Keyed.keys], rfl⟩
    refine iff_of_true ?_ (by simp [ofId])
    refine readFields_eq_ok_iff.mpr ⟨hkept.keeps rfl (by decide), ?_, ?_⟩
    · simp [required, Keyed.get?, ofId, text, Checked.under]
    · simp [maybe, Schema.optional, Keyed.get?, ofId, Value.ofOption, nullable, Checked.under]
  · exact returns hv hread

end ConversationReference

/-! ### Text formats -/

namespace TextFormat

/-- Whatever key the schema was found under, none is left under the key of the wire. -/
theorem kept_of_keeps {fs extra : Fields} (hfs : Value.IsDocument (.object fs))
    (h : Keeps ["type", "name", "strict", schemaKey fs, "description"] fs extra) :
    Kept ["type", "name", "strict", "schema", "description"] extra := by
  have hkept := Kept.of_keeps hfs h
  refine ⟨hkept.encodable, ?_, hkept.wire⟩
  have hschema : "schema" ∉ Keyed.keys extra := by
    by_cases hkey : schemaKey fs = "schema"
    · exact hkept.apart _ (by simp [hkey])
    · intro hmem
      rw [← h.rest] at hmem
      have hhas : fs.has "schema" = true :=
        Keyed.has_eq_true_iff.mpr ((Keyed.keys_without_sublist fs _).subset hmem)
      exact hkey (by simp [schemaKey, hhas])
  have hapart := hkept.apart
  simp only [List.forall_mem_cons] at hapart ⊢
  exact ⟨hapart.1, hapart.2.1, hapart.2.2.1, hschema, hapart.2.2.2.2⟩

theorem returns : Returns read write fun f => ∀ schema ∈ f.schema, KeysEncodable schema := by
  intro v f hv hread
  obtain ⟨fs, rfl, hfields⟩ := model_eq_ok_iff.mp hread
  obtain ⟨hkeeps, htype, hname, hstrict, hschema, hdescription⟩ := readFields_eq_ok_iff.mp hfields
  have hkept := kept_of_keeps hv hkeeps
  have hnull (schema : Fields) : Value.underTexts (Value.onWireFields schema) ≠ .null := by
    simp [Value.underTexts, Value.ofPairs]
  show readFields f.write.fields = .ok f ↔ _
  have hkey : schemaKey f.write.fields = "schema" := by
    simp [write, Value.fields, schemaKey, Keyed.has, Keyed.get?]
  rw [readFields_eq_ok_iff, hkey, (Reasoning.returns_word _).required hv htype,
    Returns.text.maybe (by simp) hv hname, Returns.bool.maybe (by simp) hv hstrict,
    Returns.object.maybe hnull hv hschema, Returns.text.maybe (by simp) hv hdescription]
  · simp [show Keeps _ f.write.fields f.extra from hkept.keeps rfl (by decide)]
  all_goals simp [write, Value.fields, Keyed.get?, Value.ofText?]

end TextFormat

theorem TextSettings.returns : Returns read write
    fun t => ∀ format ∈ t.format, ∀ schema ∈ format.schema, KeysEncodable schema := by
  intro v t hv hread
  obtain ⟨fs, rfl, hfields⟩ := model_eq_ok_iff.mp hread
  obtain ⟨hkeeps, hformat⟩ := readFields_eq_ok_iff.mp hfields
  have hagain : Keeps ["format"] ([("format", .ofOption TextFormat.write t.format)] ++
      Value.onWireFields t.extra) t.extra := (Kept.of_keeps hv hkeeps).keeps rfl (by decide)
  refine readFields_eq_ok_iff.trans ((and_iff_right hagain).trans ?_)
  rw [TextFormat.returns.maybe (by simp [TextFormat.write]) hv hformat]
  simp [Keyed.get?]

/-! ### Messages -/

theorem InputRole.returns : Returns (oneOf .notLiteral table) (fun role => .text role.name)
    fun _ => True := Returns.of_forall fun role => by cases role <;> rfl

theorem InputMessage.returns :
    Returns read write fun m => ∀ part ∈ listed m.content, part.Unwrapped := by
  intro v m hv hread
  obtain ⟨fs, rfl, hfields⟩ := model_eq_ok_iff.mp hread
  obtain ⟨hkeeps, -, hrole, hcontent⟩ := readFields_eq_ok_iff.mp hfields
  have hwritten : writeContent m.content =
      Sum.elim .text (fun parts => .list (parts.map Part.write)) m.content := by
    cases m.content <;> rfl
  refine readFields_eq_ok_iff.trans
    ((and_iff_right ((Kept.of_keeps hv hkeeps).keeps rfl (by decide))).trans ?_)
  rw [InputRole.returns.optional hv (iff_true_intro rfl) hrole,
    Part.returns.textOrList.required hv hcontent]
  · simp [Schema.optional, Keyed.get?, literal, oneOf, Checked.under]
  all_goals simp [Keyed.get?, hwritten]

/-! ### Requests -/

namespace Request

/-- The parts of a request's messages. -/
def parts (r : Request) : List Part := (listed r.input).flatMap fun m => listed m.content

/-- The keys that are known to be texts: those of metadata, of tools and of a schema. -/
def textKeys (r : Request) : List String :=
  r.metadata.toList.flatMap Keyed.keys ++
    r.conversation.toList.flatMap (fun c => c.metadata.toList.flatMap Keyed.keys) ++
    r.tools.toList.flatMap (fun tools => tools.flatMap Keyed.keys) ++
    r.textSettings.toList.flatMap fun t =>
      t.format.toList.flatMap fun format => format.schema.toList.flatMap Keyed.keys

theorem forall_parts {r : Request} {P : Part → Prop} : (∀ part ∈ r.parts, P part) ↔
    ∀ m ∈ listed r.input, ∀ part ∈ listed m.content, P part := by
  simp only [parts, List.forall_mem_flatMap]

theorem forall_textKeys {r : Request} :
    (∀ key ∈ r.textKeys, Text.isEncodable key.toList = true) ↔
      (∀ m ∈ r.metadata, KeysEncodable m) ∧
        (∀ c ∈ r.conversation, ∀ m ∈ c.metadata, KeysEncodable m) ∧
        (∀ tools ∈ r.tools, ∀ tool ∈ tools, KeysEncodable tool) ∧
        ∀ t ∈ r.textSettings, ∀ format ∈ t.format, ∀ schema ∈ format.schema,
          KeysEncodable schema := by
  simp only [textKeys, List.forall_mem_append, List.forall_mem_flatMap, Option.mem_toList,
    Option.mem_def, KeysEncodable, and_assoc]

/-- Whether one more reading finds nothing to change: no audio part is unwrapped further, and no
key that is a text has to be replaced. -/
def Settled (r : Request) : Prop :=
  (∀ part ∈ r.parts, part.Unwrapped) ∧ ∀ key ∈ r.textKeys, Text.isEncodable key.toList = true

theorem returns : Returns read write Settled := by
  intro v r hv hread
  obtain ⟨fs, rfl, hfields⟩ := model_eq_ok_iff.mp hread
  obtain ⟨hkeeps, hinput, hagent, hmodelName, hinstructions, hmaxOutputTokens, hreasoning, hstore,
      hstream, hpreviousResponseId, htemperature, htopP, hparallelToolCalls, hmetadata,
      hincludes, hconversation, hbackground, hmaxToolCalls, htopLogprobs, hsafetyIdentifier,
      hpromptCacheKey, htruncation, htools, htoolChoice, htextSettings⟩ :=
    readFields_eq_ok_iff.mp hfields
  have hagain : Keeps known r.write.fields r.extra :=
    (Kept.of_keeps hv hkeeps).keeps rfl (by decide)
  have hwritten : writeInput r.input =
      Sum.elim .text (fun ms => .list (ms.map InputMessage.write)) r.input := by
    cases r.input <;> rfl
  show readFields r.write.fields = .ok r ↔ _
  rw [readFields_eq_ok_iff, InputMessage.returns.textOrList.required hv hinput,
    AgentReference.returns.maybe (by simp [AgentReference.write]) hv hagent,
    Returns.text.maybe (by simp) hv hmodelName, Returns.text.maybe (by simp) hv hinstructions,
    Returns.int.maybe (by simp) hv hmaxOutputTokens,
    Reasoning.returns.maybe (by simp [Reasoning.write]) hv hreasoning,
    Returns.bool.maybe (by simp) hv hstore, Returns.bool.maybe (by simp) hv hstream,
    Returns.text.maybe (by simp) hv hpreviousResponseId,
    Returns.float.maybe (by simp) hv htemperature, Returns.float.maybe (by simp) hv htopP,
    Returns.bool.maybe (by simp) hv hparallelToolCalls,
    ConversationReference.returns_metadata.maybe ConversationReference.writeMetadata_ne_null hv
      hmetadata,
    Returns.text.list.maybe (by simp) hv hincludes,
    ConversationReference.returns_loose.maybe (by simp [ConversationReference.write]) hv
      hconversation,
    Returns.bool.maybe (by simp) hv hbackground, Returns.int.maybe (by simp) hv hmaxToolCalls,
    Returns.int.maybe (by simp) hv htopLogprobs, Returns.text.maybe (by simp) hv hsafetyIdentifier,
    Returns.text.maybe (by simp) hv hpromptCacheKey, Returns.text.maybe (by simp) hv htruncation,
    Returns.object.list.maybe (by simp) hv htools,
    Returns.any.optional hv (iff_true_intro rfl) htoolChoice,
    TextSettings.returns.maybe (by simp [TextSettings.write]) hv htextSettings]
  · show _ ↔ r.Settled
    rw [Settled, forall_parts, forall_textKeys]
    simp [hagain]
  all_goals simp [write, Value.fields, Keyed.get?, Value.ofText?, Value.ofInt?, hwritten]

theorem document_eq_ok_iff {r : Request} {sent : Value} :
    r.document = .ok sent ↔ (∀ u ∈ r.loose, u.wireFault? = none) ∧ sent = r.write := by
  rw [document, Failure.outgoing, ← List.findSome?_eq_none_iff]
  cases r.loose.findSome? Value.wireFault? with
  | none => simp [eq_comm]
  | some f => simp

/-- **A request that is written and read again is the same request**, where all of it can go out,
no audio part is unwrapped further, and no key that is a text has to be replaced. Where one of
these fails the request does not come back. -/
theorem comes_back_iff_settled {v : Value} {r : Request} (hkeyed : v.wellKeyed = true)
    (hfinite : Json.finite v = true) (hread : read v = .ok r) :
    (∃ sent, r.document = .ok sent ∧ read sent = .ok r) ↔
      (∀ u ∈ r.loose, u.wireFault? = none) ∧ (∀ part ∈ r.parts, part.Unwrapped) ∧
        ∀ key ∈ r.textKeys, Text.isEncodable key.toList = true := by
  have hagain : read r.write = .ok r ↔ r.Settled := returns ⟨hkeyed, hfinite⟩ hread
  constructor
  · rintro ⟨sent, hsent, hsame⟩
    obtain ⟨hloose, rfl⟩ := document_eq_ok_iff.mp hsent
    exact ⟨hloose, hagain.mp hsame⟩
  · rintro ⟨hloose, hsettled⟩
    exact ⟨r.write, document_eq_ok_iff.mpr ⟨hloose, rfl⟩, hagain.mpr hsettled⟩

/-- A document with a little of all that reading puts in order. -/
def lax : Value :=
  .object [("input", .list [.object [("content", .list [.object
      [("type", .text "input_audio"), ("input_audio", .object [("data", .text "x")]),
        ("note", .int 1)]])]]),
    ("max_output_tokens", .text "5"), ("store", .text "yes"), ("temperature", .bool true),
    ("conversation", .text "c"), ("metadata", .object [("k", .text "v")]),
    ("text", .object [("format", .object
      [("type", .text "json_schema"), ("json_schema", .object [("a", .null)])])]),
    ("beside", .list [.int 1])]

/-- What is read of it. -/
def inOrder : Request :=
  { ofText "" with
    input := .inr [⟨.user, .inr [⟨.inputAudio "x" none, [("note", .int 1)]⟩], []⟩]
    maxOutputTokens := some 5, store := some true, temperature := some .one
    conversation := some (.ofId "c"), metadata := some [("k", "v")]
    textSettings := some ⟨some ⟨"json_schema", none, none, some [("a", .null)], none, []⟩, []⟩
    extra := [("beside", .list [.int 1])] }

theorem lax_comes_back : lax.wellKeyed = true ∧ Json.finite lax = true ∧ read lax = .ok inOrder ∧
    ∃ sent, inOrder.document = .ok sent ∧ read sent = .ok inOrder := by
  have hkeyed : lax.wellKeyed = true := by decide
  have hfinite : Json.finite lax = true := by decide
  have hread : read lax = .ok inOrder := by decide +kernel
  refine ⟨hkeyed, hfinite, hread,
    (comes_back_iff_settled hkeyed hfinite hread).mpr ⟨by decide +kernel, ?_, by decide +kernel⟩⟩
  intro part hpart
  obtain rfl : part = ⟨.inputAudio "x" none, [("note", .int 1)]⟩ := List.mem_singleton.mp hpart
  intro inner hinner
  simp [Keyed.get?] at hinner

/-- A document whose audio is wrapped twice. -/
def wrappedTwice : Value :=
  .object [("input", .list [.object [("role", .text "user"), ("content", .list [.object
    [("type", .text "input_audio"), ("input_audio", .object
      [("data", .text "x"), ("input_audio", .object [("data", .text "y")])])]])]])]

/-- A request that is audio, with what else is kept in its part. -/
def ofAudio (data : String) (extra : Fields) : Request :=
  { ofText "" with input := .inr [⟨.user, .inr [⟨.inputAudio data none, extra⟩], []⟩] }

/-- The inner wrapping of audio that is wrapped twice is kept by the first reading, and by the
second one taken for a wrapping: the data is another. -/
theorem wrapped_twice_changes :
    wrappedTwice.wellKeyed = true ∧ Json.finite wrappedTwice = true ∧
      ∃ r sent, read wrappedTwice = .ok r ∧ r.document = .ok sent ∧
        read sent = .ok (ofAudio "y" []) ∧ ofAudio "y" [] ≠ r := by
  refine ⟨by decide, by decide, ofAudio "x" [("input_audio", .object [("data", .text "y")])], _,
    by decide +kernel, rfl, by decide +kernel, by decide⟩

end Request
end AgentGateway
