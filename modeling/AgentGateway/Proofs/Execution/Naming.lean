import AgentGateway.Proofs.Execution.Agreement
import AgentGateway.Proofs.Identifier.Partition
import AgentGateway.Proofs.Projection.Naming

/-! Which characters become which identifiers.

A response draws for its own identifier and for its conversation's where they are not supplied, and
then one block for each item of its output. It draws for nothing else, and in that order, whether
its items are opened one after another in a stream or gathered from whole messages
(`IdSource.drawn_in_order`). So two items of a response have one identifier only where the same
characters come twice. -/
namespace AgentGateway

namespace Executor
variable {e : Executor} (r : Request) {ids : IdSource} (now : Int) (entropy : Entropy)

/-- The response for a run is named in the order of its output. Where a content cannot be spelled
there is none. -/
theorem respond_named {run : Run} (hrun : e.agent.run = .ok run) (h : 0 ≤ ids.layout.entropy) :
    ∃ output entropy', ids.Named entropy output ∧
      (run.limit? = none → entropy' = ids.after output.length entropy) ∧
      (e.respond r ids now).run entropy =
        ((answerTime? r now run).map fun t => .build r ids .completed output run.usage t,
          entropy') := by
  cases hl : run.limit? with
  | some l =>
    obtain ⟨entropy', hfails⟩ := respond_of_limit hrun hl r now entropy h
    refine ⟨[], entropy', ids.named_nil entropy, fun hnone => (by cases hnone), ?_⟩
    rw [hfails, answerTime?_of_limit hl]
    rfl
  | none =>
    obtain ⟨output, hitems, hnamed⟩ :=
      Item.ofMessages_named h run.messages (Run.limit?_eq_none_iff.mp hl) entropy
    refine ⟨output, _, hnamed, fun _ => rfl, ?_⟩
    rw [respond_of_items hrun r now hitems, answerTime?_of_spelled hl]

/-- The stream of updates that can be told comes to its end, and is named in the order of its
output. -/
theorem stream_named {us : List Update} (hs : e.agent.stream = .ok (us.map .update))
    (number : Int) (cancellable : Bool) (h : 0 ≤ ids.layout.entropy) (hr : r.limit? = none)
    (hl : ∀ c ∈ us.flatMap Update.contents, c.limit? = none) :
    let run := e.stream r ⟨ids, number, entropy⟩ now cancellable
    run.failure = none ∧ run.EndsNamed ids entropy := by
  rw [stream_of_source hs hr]
  let g : Projection.Setting := ⟨r, e.kinds, now, cancellable⟩
  have hends := (Projection.project_ends_iff g ⟨ids, number, entropy⟩ us).mpr
    ⟨.inl h, fun c hc => BuilderKind.limit?_of_spelled (hl c hc)⟩
  refine ⟨Option.map_eq_none_iff.mpr hends, ?_⟩
  rw [← Projection.Attended.project_silent] at hends
  have hnamed := Projection.Attended.project_named g .silent hends
  rwa [Projection.Attended.project_silent] at hnamed

end Executor

namespace IdSource
open Projection (State Attended.project)

/-- The items of every response to a request have the blocks of some characters in the order of its
output, and nothing else draws. -/
structure NamesInOrder (ids : IdSource) (r : Request) (e : Entropy) : Prop where
  /-- In a stream that comes to its last event, whatever its consumer says. -/
  projected : ∀ g voice number reason cancelled source,
    let run := Attended.project g voice (State.fresh ⟨ids, number, e⟩ reason cancelled) source
    run.failure = none → run.EndsNamed ids e
  /-- Updates that can be told make such a stream. -/
  streamed : ∀ (x : Executor) (us : List Update) number now cancellable,
    x.agent.stream = .ok (us.map .update) → r.limit? = none →
    (∀ c ∈ us.flatMap Update.contents, c.limit? = none) →
    let run := x.stream r ⟨ids, number, e⟩ now cancellable
    run.failure = none ∧ run.EndsNamed ids e
  /-- In a response that is given at once. -/
  given : ∀ (x : Executor) run now, x.agent.run = .ok run →
    ∃ output e', ids.Named e output ∧
      (run.limit? = none → e' = ids.after output.length e) ∧
      (x.respond r ids now).run e =
        ((answerTime? r now run).map fun t => .build r ids .completed output run.usage t, e')
  /-- Two items have one identifier only where one category has the same characters twice. -/
  apart : ∀ items, ids.Named e items → ∀ m n (hm : m < items.length) (hn : n < items.length),
    items[m].id? = items[n].id? → items[m].category = items[n].category ∧
      (ids.after m e).peek ids.layout.entropy.toNat = (ids.after n e).peek ids.layout.entropy.toNat

theorem names_in_order {ids : IdSource} (h : 0 ≤ ids.layout.entropy) (r : Request) (e : Entropy) :
    ids.NamesInOrder r e where
  projected g voice _ _ _ _ hends := Projection.Attended.project_named g voice hends
  streamed _ _ number now cancellable hs := Executor.stream_named r now e hs number cancellable h
  given _ _ now hrun := Executor.respond_named r now e hrun h
  apart _ hnamed _ _ hm hn hsame := hnamed.block_eq hm hn hsame

/-- **Characters become identifiers in the order of the output.** However a request's source comes
about, it takes the characters of the identifiers that are not supplied, first the response's own
and then the conversation's. The items of the response have the blocks that come next, each in its
identifier between its category and the partition key, and what is left afterwards begins behind
the last item's block. -/
theorem drawn_in_order {lengths : Lengths} {l : Layout} (hl : lengths.layout? = some l)
    (hentropy : 0 ≤ l.entropy) (hpartition : 0 ≤ l.partition) (r : Request) (e : Entropy) :
    let made := (ofRequest r lengths).run e
    let e₁ := spared r.suppliedResponseId l e
    let e₂ := spared r.suppliedConversationId l e₁
    made.2 = e₂ ∧ ∀ ids, made.1 = .ok ids →
      ids.layout = l ∧ ids.responseId = chosen r.suppliedResponseId "resp" l e ∧
        ids.conversationId = chosen r.suppliedConversationId "conv" l e₁ ∧ ids.NamesInOrder r e₂ := by
  intro made e₁ e₂
  have hmade : made = _ := (congrFun (ofLengths_eq hl _ _) e).trans
    (make_eq hentropy hpartition r.suppliedResponseId r.suppliedConversationId e)
  dsimp only at hmade
  split at hmade
  next key hkey =>
    rw [hmade]
    refine ⟨rfl, fun ids hids => ?_⟩
    obtain rfl := Except.ok.inj hids
    exact ⟨rfl, rfl, rfl, names_in_order hentropy r e₂⟩
  next hnone =>
    rw [hmade]
    exact ⟨rfl, fun ids hids => by cases hids⟩

/-! ### Two items -/

/-- A text and a call. -/
def duetUpdates : List Update :=
  [⟨.none, [.ofText "One"]⟩, ⟨.none, [⟨none, .functionCall "call_1" "find" none⟩]⟩]

/-- What says them, with two random characters for each identifier and a key of one. -/
def duet : Executor :=
  ⟨⟨"a", "", "Agent", .ok (duetUpdates.map .update), none⟩, BuilderKind.extended,
    Layout.lengths ⟨2, 1⟩⟩

def duetIds : IdSource := ⟨⟨2, 1⟩, "resp_abc", "conv_def", "f"⟩

theorem duet_made :
    (ofRequest (.ofText "Hi") duet.lengths).run .cyclic = (.ok duetIds, Entropy.cyclic.advance 6) := by
  rw [ofRequest, duet, ofLengths_eq rfl]
  exact make_eq (by decide) (by decide) none none .cyclic

/-- In a stream the text has the first block, and in a response that is given at once the call
has. -/
theorem duet_drawn :
    let e₂ := Entropy.cyclic.advance 6
    let run := duet.stream (.ofText "Hi") ⟨duetIds, 0, e₂⟩ 7 false
    (ofRequest (.ofText "Hi") duet.lengths).run .cyclic = (.ok duetIds, e₂) ∧
      duetIds.NamesInOrder (.ofText "Hi") e₂ ∧
      (Projection.finished run.bodies).map Item.id? = [some "msg_ghf", some "func_ijf"] ∧
      ((duet.respond (.ofText "Hi") duetIds 7).run e₂).1.toOption.map (·.output.map Item.id?) =
        some [some "func_ghf", some "msg_ijf"] := by
  intro e₂ run
  have hl : duet.lengths.layout? = some ⟨2, 1⟩ := rfl
  obtain ⟨-, hids⟩ := drawn_in_order hl (by decide) (by decide) (.ofText "Hi") .cyclic
  obtain ⟨-, -, -, hnames⟩ := hids duetIds (congrArg Prod.fst duet_made)
  exact ⟨duet_made, hnames, by decide +kernel, by decide +kernel⟩

end IdSource
end AgentGateway
