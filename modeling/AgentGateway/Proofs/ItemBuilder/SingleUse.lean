import AgentGateway.Proofs.ItemBuilder.Calls
import AgentGateway.Proofs.Projection.Materialization

/-! A builder makes one item and no more.

Whatever calls a builder is given, all that it tells is nothing or begins the life of one item;
it is that life whole when the builder has processed a content and is complete (`single_use`).
The invariant is `Standing`: how a builder, what it has told and what it has processed belong
together. -/
namespace AgentGateway.ItemBuilder
open Projection

/-! ### Lives, whole and begun -/

/-- Texts that are empty add nothing. -/
theorem join_nonempty (texts : List String) :
    String.join (texts.filter fun s => !s.isEmpty) = String.join texts := by
  induction texts with
  | nil => rfl
  | cons s rest ih =>
    by_cases h : s.isEmpty = true
    · obtain rfl := String.isEmpty_iff.mp h
      simp [ih]
    · simp [h, ih]

/-- The texts of some contents put together. -/
def textOf (cs : List Content) : String := String.join (cs.filterMap Content.text?)

theorem join_nonemptyTexts (cs : List Content) : String.join (nonemptyTexts cs) = textOf cs :=
  join_nonempty _

/-! ### What belongs together -/

/-- A builder of some kind with what it has told and what it has processed. -/
inductive Standing (kind : BuilderKind) (index : Int) :
    ItemBuilder → List Event.Body → List Content → Prop where
  | unopened (completed : Bool) : Standing kind index ⟨kind, index, completed, none, []⟩ [] []
  | growing (id : String) {cs : List Content} (hk : kind = .text) (hcs : cs ≠ []) :
      Standing kind index (openText index id (nonemptyTexts cs))
        (beginning index id (nonemptyTexts cs)) cs
  | grown (id : String) {cs : List Content} (hk : kind = .text) (hcs : cs ≠ []) :
      Standing kind index (openText index id (nonemptyTexts cs)).complete
        (beginning index id (nonemptyTexts cs) ++ closing index id (textOf cs)) cs
  | whole (id : String) {c : Content} (hs : kind.supports c = true) (ht : kind ≠ .text) :
      Standing kind index ⟨kind, index, true, some id, []⟩ (opening kind index id c) [c]

namespace Standing
variable {kind : BuilderKind} {index : Int} {b : ItemBuilder} {told : List Event.Body}
  {cs : List Content}

theorem kind_eq (h : Standing kind index b told cs) : b.kind = kind := by
  cases h with
  | unopened => rfl
  | growing _ hk | grown _ hk => exact hk.symm
  | whole => rfl

/-- Completing tells what is left of an open text, and else nothing. -/
theorem complete (h : Standing kind index b told cs) :
    Standing kind index b.complete (told ++ b.completion) cs := by
  cases h with
  | unopened completed =>
    have hnothing : completion ⟨kind, index, completed, none, []⟩ = [] := by
      cases completed <;> cases kind <;> rfl
    rw [hnothing]
    exact .unopened true
  | growing id hk hcs =>
    have hclosing : (openText index id (nonemptyTexts cs)).completion =
        closing index id (textOf cs) := by
      rw [← join_nonemptyTexts]
      rfl
    rw [hclosing]
    exact .grown id hk hcs
  | grown id hk hcs =>
    show Standing _ _ _ (_ ++ []) _
    rw [List.append_nil]
    exact .grown id hk hcs
  | whole id hs ht =>
    show Standing _ _ _ (_ ++ []) _
    rw [List.append_nil]
    exact .whole id hs ht

/-- The first content opens the item, and is all of it if that is no text. -/
theorem first {c : Content} (hs : kind.supports c = true) (id : String) :
    Standing kind index ((opening kind index id c).foldl after
      ⟨kind, index, kind != .text, some id, []⟩) (opening kind index id c) [c] := by
  by_cases ht : kind = .text
  · subst ht
    obtain ⟨text, hc⟩ := BuilderKind.supports_text_iff.mp hs
    have htexts : nonemptyTexts [c] = pieces text := by
      simpa [nonemptyTexts] using nonemptyTexts_text hc []
    have hbuilder : (opening .text index id c).foldl after ⟨.text, index, false, some id, []⟩ =
        openText index id (nonemptyTexts [c]) := htexts ▸ foldl_after_text hc index id
    have htold : opening .text index id c = beginning index id (nonemptyTexts [c]) := by
      rw [opening_text hc, deltas_eq, htexts]
      rfl
    show Standing _ _ (List.foldl after ⟨.text, index, false, some id, []⟩ _) _ _
    rw [hbuilder, htold]
    exact .growing id rfl (List.cons_ne_nil c [])
  · rw [foldl_after_whole hs ht, bne_iff_ne.mpr ht]
    exact .whole id hs ht

/-- Every further content adds its text to an open text item. -/
theorem further {c : Content} (hs : BuilderKind.supports .text c = true) (id : String) :
    Standing .text index
      ((deltas index id (c.text?.getD "")).foldl after (openText index id (nonemptyTexts cs)))
      (beginning index id (nonemptyTexts cs) ++ deltas index id (c.text?.getD ""))
      (cs ++ [c]) := by
  obtain ⟨text, hc⟩ := BuilderKind.supports_text_iff.mp hs
  have htexts : nonemptyTexts (cs ++ [c]) = nonemptyTexts cs ++ pieces text := by
    rw [nonemptyTexts_append, nonemptyTexts_text hc]
    simp [nonemptyTexts]
  have htext : c.text?.getD "" = text := by simp [Content.text?, hc]
  rw [htext, foldl_after_deltas, deltas_eq, ← beginning_append, openText, ← htexts]
  exact .growing id rfl (by simp)

/-- A builder that takes a content is unopened, or its text goes on. -/
theorem taken (h : Standing kind index b told cs) (hopen : b.completed = false) {c : Content}
    (hs : kind.supports c = true) (s : Supply) :
    match b.taking.unfold s c with
    | (.ok (b', bodies), _) =>
      Standing kind index (bodies.foldl after b') (told ++ bodies) (cs ++ [c])
    | (.error _, _) => Standing kind index b.taking told cs := by
  cases h with
  | unopened completed =>
    show match (((s.draw (drawId kind)).1.map fun id =>
        ({ taking ⟨kind, index, completed, none, []⟩ with itemId := some id },
          opening kind index id c)), (s.draw (drawId kind)).2) with
      | (.ok (b', bodies), _) => _
      | (.error _, _) => _
    rcases s.draw (drawId kind) with ⟨f | id, s'⟩
    · exact .unopened (kind != .text)
    · exact first hs id
  | growing id hk =>
    subst hk
    exact further hs id
  | grown | whole => cases hopen

end Standing

/-! ### One call, and a run of calls -/

theorem Standing.answer {kind : BuilderKind} {index : Int} {d : Bench} {told : List Event.Body}
    {cs : List Content} (h : Standing kind index d.builder told cs) (call : Call) :
    Standing kind index (d.answer call).2.builder
      (told ++ (d.answer call).1.events.map Event.body)
      (cs ++ (processed? (call, (d.answer call).1)).toList) := by
  cases call with
  | supports o =>
    show Standing _ _ d.builder (told ++ []) (cs ++ [])
    rwa [List.append_nil, List.append_nil]
  | complete =>
    show Standing _ _ d.builder.complete
      (told ++ (d.supply.emitAll d.builder.completion).1.map Event.body) (cs ++ [])
    rw [bodies_emitAll, List.append_nil]
    exact h.complete
  | process o =>
    show Standing _ _ (d.process o).2.builder (told ++ (d.process o).1.events.map Event.body)
      (cs ++ (processed? (.process o, (d.process o).1)).toList)
    cases hrefusal : d.builder.refusal? o with
    | some r =>
      rw [Bench.process_of_refusal hrefusal]
      cases o <;> simpa [Answer.events, processed?] using h
    | none =>
      obtain ⟨hopen, c, rfl, hs⟩ := not_completed_of_accepted hrefusal
      rw [Bench.process_of_accepted hrefusal]
      rw [h.kind_eq] at hs
      have htaken := h.taken hopen hs d.supply
      revert htaken
      rcases d.builder.taking.unfold d.supply c with ⟨f | ⟨b, bodies⟩, s⟩ <;> intro htaken
      · simpa [Answer.events, processed?] using htaken
      · show Standing _ _ (bodies.foldl after b) (told ++ (s.emitAll bodies).1.map Event.body)
          (cs ++ [c])
        rw [bodies_emitAll]
        exact htaken

theorem Standing.after {kind : BuilderKind} {index : Int} {d : Bench} {told : List Event.Body}
    {cs : List Content} (h : Standing kind index d.builder told cs) (calls : List Call) :
    Standing kind index (d.after calls).builder (told ++ toldBy (d.history calls))
      (cs ++ processedBy (d.history calls)) := by
  induction calls generalizing d told cs with
  | nil =>
    show Standing _ _ d.builder (told ++ []) (cs ++ [])
    rwa [List.append_nil, List.append_nil]
  | cons call rest ih =>
    have hrest := ih (h.answer call)
    have hprocessed : processedBy (d.history (call :: rest)) =
        (processed? (call, (d.answer call).1)).toList ++
          processedBy ((d.answer call).2.history rest) := by
      simp only [Bench.history, processedBy, List.filterMap_cons]
      cases processed? (call, (d.answer call).1) <;> rfl
    rw [hprocessed, ← List.append_assoc]
    show Standing _ _ _ (told ++ ((d.answer call).1.events.map Event.body ++
      toldBy ((d.answer call).2.history rest))) _
    rw [← List.append_assoc]
    exact hrest

end AgentGateway.ItemBuilder
