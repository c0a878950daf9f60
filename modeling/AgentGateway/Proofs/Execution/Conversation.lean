import AgentGateway.Proofs.Execution.Naming
import AgentGateway.Proofs.Identifier.Stability
import AgentGateway.Proofs.Projection.Protocol

/-! The conversation that a response belongs to.

The key that a response's conversation is known by stands at the end of every item's identifier and
is read back from it (`IdSource.Named.holdKey`). Which conversation a snapshot names is decided on
its own: the one that the request refers to, if it refers to one. A reference without characters
counts as none where identifiers are drawn, and is echoed all the same. So a snapshot names the
conversation whose key its items hold unless its request refers to one by an empty identifier
(`conversation_told`). -/
namespace AgentGateway

namespace Item

/-- The partition key stands at the end of every item's identifier, and is read back from it. -/
def HoldKey (lengths : Lengths) (key : String) (items : List Item) : Prop :=
  ∀ i ∈ items, ∃ body, i.id? = some (body ++ key) ∧
    Identifier.partitionFrom lengths (.text (body ++ key)) = .ok key

theorem label_category (i : Item) : Identifier.label (some i.category) = i.category := by
  unfold category
  split <;> rfl

/-- No category has an underscore. -/
theorem category_plain (i : Item) : Identifier.IsPlain (some i.category) := by
  have hwords : ∀ s ∈ ["msg", "func", "funcout"],
      (s.toList.all fun c => decide (Text.IsLow c ∧ c ≠ '_')) = true := by decide
  have hcategory : i.category ∈ ["msg", "func", "funcout"] := by
    unfold category
    split <;> simp
  exact Identifier.isPlain_of_low (List.all_iff_forall_prop.mp (hwords _ hcategory))

end Item

namespace IdSource
variable {ids : IdSource} {lengths : Lengths} {e : Entropy} {items : List Item}

/-- Named items hold the key of their source. -/
theorem Named.holdKey (h : ids.Named e items) (hids : ids.Sound) (he : e.Alphanumeric)
    (hl : lengths.layout? = some ids.layout) : Item.HoldKey lengths ids.partition items := by
  intro i hi
  obtain ⟨n, hn, rfl⟩ := List.mem_iff_getElem.mp hi
  have hafter : (ids.after n e).Alphanumeric := he
  have hread := hids.read_named hafter items[n].category_plain
  rw [items[n].label_category] at hread
  exact ⟨_, h.getElem hn, Identifier.partitionFrom_of_partition? hl hread⟩

end IdSource

namespace Response

/-- The conversation that is named, if the request's own is not taken for the one that its
identifiers were drawn for. -/
theorem conversationOf_id {r : Request} {ids : IdSource} {l : Layout} {e : Entropy}
    (hmade : ids.conversationId = IdSource.chosen r.suppliedConversationId "conv" l e)
    (hne : ids.conversationId ≠ "") : (conversationOf r ids).map (·.id) =
      some (if r.suppliedConversationId = some "" then "" else ids.conversationId) := by
  unfold conversationOf
  cases hc : r.conversation with
  | none =>
    simp [Request.suppliedConversationId, hc, hne, ConversationReference.ofId]
  | some c =>
    have hsupplied : r.suppliedConversationId = some c.id := by
      rw [Request.suppliedConversationId, hc]
      rfl
    rw [hsupplied] at hmade ⊢
    by_cases hempty : c.id = ""
    · simp [hempty]
    · have hchosen : ids.conversationId = c.id := by
        rw [hmade]
        simp [IdSource.chosen, Option.filter, hempty]
      simp [hempty, hchosen]

/-- A snapshot names the conversation that its identifiers were drawn for, but for a reference
without characters, which is echoed; and its items hold the key of that conversation. -/
structure OfConversation (s : Response) (r : Request) (ids : IdSource) (lengths : Lengths) :
    Prop where
  conversation : s.conversation.map (·.id) =
    some (if r.suppliedConversationId = some "" then "" else ids.conversationId)
  items : Item.HoldKey lengths ids.partition s.output

end Response

namespace IdSource
open Projection (State Attended.project)

/-- **A response and its items belong to one conversation.** The key of the conversation that a
request's identifiers are drawn for is read back from the conversation's identifier and from every
item's, in all snapshots of a stream and in a response that is given at once. They all name that
conversation, except where the request refers to one by an identifier without characters. -/
theorem conversation_told {lengths : Lengths} {l : Layout} (hl : lengths.layout? = some l)
    (hentropy : 0 ≤ l.entropy) (hpartition : 1 ≤ l.partition) {e e' : Entropy}
    (he : e.Alphanumeric) {r : Request} {ids : IdSource}
    (hmade : (ofRequest r lengths).run e = (.ok ids, e')) :
    ids.conversationId ≠ "" ∧
      Identifier.partitionFrom lengths (.text ids.conversationId) = .ok ids.partition ∧
      (∀ g voice number reason cancelled source kind s, g.request = r →
        .envelope kind s ∈ (Attended.project g voice
          (State.fresh ⟨ids, number, e'⟩ reason cancelled) source).bodies →
        s.OfConversation r ids lengths) ∧
      ∀ (x : Executor) run now, x.agent.run = .ok run →
        ∃ output e'', (x.respond r ids now).run e' =
            ((answerTime? r now run).map fun t => .build r ids .completed output run.usage t, e'') ∧
          ∀ t, (Response.build r ids .completed output run.usage t).OfConversation r ids lengths := by
  obtain ⟨rfl, hsound, hconversation, rfl⟩ := make_sound hentropy hpartition
    ((congrFun (ofLengths_eq hl _ _) e).symm.trans hmade)
  have hne : ids.conversationId ≠ "" := by
    simpa using Identifier.not_isEmpty_of_partition? hsound.conversation
  have hleft := spared_alphanumeric (spared_alphanumeric he r.suppliedResponseId ids.layout)
    r.suppliedConversationId ids.layout
  have hnamed := Response.conversationOf_id hconversation hne
  refine ⟨hne, Identifier.partitionFrom_of_partition? hl hsound.conversation, ?_, ?_⟩
  · rintro g voice number reason cancelled source kind s rfl hmem
    have hitems := Projection.Attended.snapshot_named g voice hmem
    obtain ⟨_, _, _, _, rfl⟩ :=
      Projection.Attended.snapshot_of_mem g voice _ reason cancelled source hmem
    exact ⟨hnamed, hitems.holdKey hsound hleft hl⟩
  · intro x run now hrun
    obtain ⟨output, _, hitems, -, hgiven⟩ := Executor.respond_named r now _ hrun hsound.entropy
    exact ⟨output, _, hgiven, fun t => ⟨hnamed, hitems.holdKey hsound hleft hl⟩⟩

/-! ### A conversation without characters -/

/-- A request that refers to a conversation by nothing. -/
def nameless : Request := { Request.ofText "Hi" with conversation := some (.ofId "") }

theorem nameless_made :
    (ofRequest nameless duet.lengths).run .cyclic = (.ok duetIds, Entropy.cyclic.advance 6) := by
  rw [ofRequest, duet, ofLengths_eq rfl]
  exact make_eq (by decide) (by decide) none (some "") .cyclic

/-- Its items hold the key of a conversation, and its response names another that has none. -/
theorem nameless_told :
    (ofRequest nameless duet.lengths).run .cyclic = (.ok duetIds, Entropy.cyclic.advance 6) ∧
      ∃ s : Response, s.conversation.map (·.id) = some "" ∧
        (∃ e, (duet.respond nameless duetIds 7).run (Entropy.cyclic.advance 6) = (.ok s, e)) ∧
        Item.HoldKey duet.lengths "f" s.output ∧
        Identifier.partitionFrom duet.lengths (.text "conv_def") = .ok "f" ∧
        Identifier.partitionFrom duet.lengths (.text "") =
          .error (.report (.malformedIdentifier (.text ""))) := by
  have hl : duet.lengths.layout? = some ⟨2, 1⟩ := rfl
  obtain ⟨-, hread, -, hgiven⟩ :=
    conversation_told hl (by decide) (by decide) Entropy.cyclic_alphanumeric nameless_made
  obtain ⟨output, e, hresponse, hof⟩ :=
    hgiven duet (Run.ofUpdates duetUpdates) 7 (Executor.run_of_script rfl rfl)
  exact ⟨nameless_made, _, (hof 7).conversation, ⟨e, hresponse⟩, (hof 7).items, hread, rfl⟩

end IdSource
end AgentGateway
