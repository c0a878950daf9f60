import AgentGateway.Proofs.Schema.Reading
import AgentGateway.Request

/-! Requests and what they are made of, read field by field.

The reader of a record takes its fields in their order and keeps all others. Where it succeeds,
each field has been read on its own, and the record is made of what they gave. -/
namespace AgentGateway
open Schema
variable {fs : Fields}

theorem AgentReference.readFields_eq_ok_iff {a : AgentReference} : readFields fs = .ok a ↔
    Keeps ["type", "name", "version"] fs a.extra ∧
      optional fs "type" (literal "agent_reference") () = .ok () ∧
      required fs "name" text = .ok a.name ∧ maybe fs "version" text = .ok a.version := by
  obtain ⟨name, version, extra⟩ := a
  simp [readFields, keeping_eq_ok_iff, keeps_iff, Checked.ap_eq_ok_iff, Checked.map_eq_ok_iff,
    Checked.exists_ok_unit, and_assoc, and_comm, and_left_comm]

theorem ConversationReference.readFields_eq_ok_iff {c : ConversationReference} :
    readFields fs = .ok c ↔
      Keeps ["id", "metadata"] fs c.extra ∧
        required fs "id" text = .ok c.id ∧ maybe fs "metadata" (dict text) = .ok c.metadata := by
  obtain ⟨id, metadata, extra⟩ := c
  simp [readFields, keeping_eq_ok_iff, keeps_iff, Checked.ap_eq_ok_iff, Checked.map_eq_ok_iff,
    and_assoc, and_comm, and_left_comm]

theorem Reasoning.readFields_eq_ok_iff {r : Reasoning} : readFields fs = .ok r ↔
    Keeps ["effort", "generate_summary", "summary"] fs r.extra ∧
      maybe fs "effort" (word efforts) = .ok r.effort ∧
      maybe fs "generate_summary" (word summaries) = .ok r.generateSummary ∧
      maybe fs "summary" (word summaries) = .ok r.summary := by
  obtain ⟨effort, generateSummary, summary, extra⟩ := r
  simp [readFields, keeping_eq_ok_iff, keeps_iff, Checked.ap_eq_ok_iff, Checked.map_eq_ok_iff,
    and_assoc, and_comm, and_left_comm]

theorem TextFormat.readFields_eq_ok_iff {f : TextFormat} : readFields fs = .ok f ↔
    Keeps ["type", "name", "strict", schemaKey fs, "description"] fs f.extra ∧
      required fs "type" (Reasoning.word types) = .ok f.type ∧
      maybe fs "name" text = .ok f.name ∧ maybe fs "strict" bool = .ok f.strict ∧
      maybe fs (schemaKey fs) object = .ok f.schema ∧
      maybe fs "description" text = .ok f.description := by
  obtain ⟨type, name, strict, schema, description, extra⟩ := f
  simp [readFields, keeping_eq_ok_iff, keeps_iff, Checked.ap_eq_ok_iff, Checked.map_eq_ok_iff,
    and_assoc, and_comm, and_left_comm]

theorem TextSettings.readFields_eq_ok_iff {t : TextSettings} : readFields fs = .ok t ↔
    Keeps ["format"] fs t.extra ∧ maybe fs "format" TextFormat.read = .ok t.format := by
  obtain ⟨format, extra⟩ := t
  simp [readFields, keeping_eq_ok_iff, keeps_iff, Checked.map_eq_ok_iff, and_assoc, and_comm,
    and_left_comm]

theorem InputMessage.readFields_eq_ok_iff {m : InputMessage} : readFields fs = .ok m ↔
    Keeps ["type", "role", "content"] fs m.extra ∧
      optional fs "type" (literal "message") () = .ok () ∧
      optional fs "role" (oneOf .notLiteral InputRole.table) .user = .ok m.role ∧
      required fs "content" (textOrList Part.read) = .ok m.content := by
  rw [readFields, keeping_eq_ok_iff, keeps_iff, and_assoc]
  refine and_congr_right fun _ => ⟨fun h => ?_, fun h => ?_⟩
  · simp only [Checked.seq_eq, Checked.map_eq, Checked.ap_eq_ok_iff, Checked.map_eq_ok_iff] at h
    obtain ⟨_, content, ⟨_, role, ⟨type, htype, rfl⟩, hrole, rfl⟩, hcontent, rfl⟩ := h
    exact ⟨rfl, htype, hrole, hcontent⟩
  · obtain ⟨hextra, htype, hrole, hcontent⟩ := h
    rw [htype, hrole, hcontent, hextra]
    rfl

theorem Request.readFields_eq_ok_iff {r : Request} : readFields fs = .ok r ↔
    Keeps known fs r.extra ∧
      required fs "input" (textOrList InputMessage.read) = .ok r.input ∧
      maybe fs "agent" AgentReference.read = .ok r.agent ∧
      maybe fs "model" text = .ok r.modelName ∧
      maybe fs "instructions" text = .ok r.instructions ∧
      maybe fs "max_output_tokens" int = .ok r.maxOutputTokens ∧
      maybe fs "reasoning" Reasoning.read = .ok r.reasoning ∧
      maybe fs "store" bool = .ok r.store ∧
      maybe fs "stream" bool = .ok r.stream ∧
      maybe fs "previous_response_id" text = .ok r.previousResponseId ∧
      maybe fs "temperature" float = .ok r.temperature ∧
      maybe fs "top_p" float = .ok r.topP ∧
      maybe fs "parallel_tool_calls" bool = .ok r.parallelToolCalls ∧
      maybe fs "metadata" (dict text) = .ok r.metadata ∧
      maybe fs "include" (list text) = .ok r.includes ∧
      maybe fs "conversation" ConversationReference.readLoose = .ok r.conversation ∧
      maybe fs "background" bool = .ok r.background ∧
      maybe fs "max_tool_calls" int = .ok r.maxToolCalls ∧
      maybe fs "top_logprobs" int = .ok r.topLogprobs ∧
      maybe fs "safety_identifier" text = .ok r.safetyIdentifier ∧
      maybe fs "prompt_cache_key" text = .ok r.promptCacheKey ∧
      maybe fs "truncation" text = .ok r.truncation ∧
      maybe fs "tools" (list object) = .ok r.tools ∧
      optional fs "tool_choice" any .null = .ok r.toolChoice ∧
      maybe fs "text" TextSettings.read = .ok r.textSettings := by
  rw [readFields, keeping_eq_ok_iff, keeps_iff, and_assoc]
  refine and_congr_right fun _ => ⟨fun h => ?_, fun h => ?_⟩
  · simp only [Checked.seq_eq, Checked.map_eq, Checked.ap_eq_ok_iff, Checked.map_eq_ok_iff] at h
    obtain ⟨_, extra, h, hextra, rfl⟩ := h
    obtain ⟨_, textSettings, h, htextSettings, rfl⟩ := h
    obtain ⟨_, toolChoice, h, htoolChoice, rfl⟩ := h
    obtain ⟨_, tools, h, htools, rfl⟩ := h
    obtain ⟨_, truncation, h, htruncation, rfl⟩ := h
    obtain ⟨_, promptCacheKey, h, hpromptCacheKey, rfl⟩ := h
    obtain ⟨_, safetyIdentifier, h, hsafetyIdentifier, rfl⟩ := h
    obtain ⟨_, topLogprobs, h, htopLogprobs, rfl⟩ := h
    obtain ⟨_, maxToolCalls, h, hmaxToolCalls, rfl⟩ := h
    obtain ⟨_, background, h, hbackground, rfl⟩ := h
    obtain ⟨_, conversation, h, hconversation, rfl⟩ := h
    obtain ⟨_, includes, h, hincludes, rfl⟩ := h
    obtain ⟨_, metadata, h, hmetadata, rfl⟩ := h
    obtain ⟨_, parallelToolCalls, h, hparallelToolCalls, rfl⟩ := h
    obtain ⟨_, topP, h, htopP, rfl⟩ := h
    obtain ⟨_, temperature, h, htemperature, rfl⟩ := h
    obtain ⟨_, previousResponseId, h, hpreviousResponseId, rfl⟩ := h
    obtain ⟨_, stream, h, hstream, rfl⟩ := h
    obtain ⟨_, store, h, hstore, rfl⟩ := h
    obtain ⟨_, reasoning, h, hreasoning, rfl⟩ := h
    obtain ⟨_, maxOutputTokens, h, hmaxOutputTokens, rfl⟩ := h
    obtain ⟨_, instructions, h, hinstructions, rfl⟩ := h
    obtain ⟨_, modelName, h, hmodelName, rfl⟩ := h
    obtain ⟨_, agent, h, hagent, rfl⟩ := h
    obtain ⟨input, hinput, rfl⟩ := h
    exact ⟨Checked.ok.inj hextra, hinput, hagent, hmodelName, hinstructions, hmaxOutputTokens,
      hreasoning, hstore, hstream, hpreviousResponseId, htemperature, htopP, hparallelToolCalls,
      hmetadata, hincludes, hconversation, hbackground, hmaxToolCalls, htopLogprobs,
      hsafetyIdentifier, hpromptCacheKey, htruncation, htools, htoolChoice, htextSettings⟩
  · obtain ⟨hextra, hinput, hagent, hmodelName, hinstructions, hmaxOutputTokens, hreasoning, hstore,
      hstream, hpreviousResponseId, htemperature, htopP, hparallelToolCalls, hmetadata,
      hincludes, hconversation, hbackground, hmaxToolCalls, htopLogprobs, hsafetyIdentifier,
      hpromptCacheKey, htruncation, htools, htoolChoice, htextSettings⟩ := h
    rw [hinput, hagent, hmodelName, hinstructions, hmaxOutputTokens, hreasoning, hstore,
      hstream, hpreviousResponseId, htemperature, htopP, hparallelToolCalls, hmetadata,
      hincludes, hconversation, hbackground, hmaxToolCalls, htopLogprobs, hsafetyIdentifier,
      hpromptCacheKey, htruncation, htools, htoolChoice, htextSettings, hextra]
    rfl

end AgentGateway
