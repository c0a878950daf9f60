import AgentGateway.Proofs.Item.Naming
import AgentGateway.Proofs.Projection.Echoes
import AgentGateway.Proofs.Projection.Lifecycle

/-! How the items of a projection are named.

A builder draws its item's identifier when the first event of the item is asked for, and nothing
else draws but for a content that then ends the run. So the items that a stretch opens are named from
the characters that it begins with, one block after the other, and if it ends well it leaves the
stream behind the last block (`Stretch.Names`). That holds of every part of a run, and is kept where
one part goes on from another. A run that ends
well finishes the items it has opened, in the same order and under the same identifiers
(`Lifecycles.tags`), so its output is named (`project_named`). -/
namespace AgentGateway

namespace BuilderKind

/-- What the identifiers of a kind's items begin with. -/
def category : BuilderKind → String
  | functionCall => "func"
  | functionResult => "funcout"
  | _ => "msg"

/-- A kind names its item as the item's type is named. -/
theorem category_eq {k : BuilderKind} {c : Content} (hs : k.supports c = true) :
    c.item.category = k.category := by
  obtain ⟨properties, body⟩ := c
  cases body with
  | functionCall | functionResult =>
    cases k <;> first
      | rfl
      | simp [supports, Content.kindName, Content.isImage, Content.isAudio, Content.isFile] at hs
  | _ =>
    cases k <;> first
      | rfl
      | simp [supports, Content.kindName] at hs

end BuilderKind

namespace Projection

/-- The item that an event of some kind opens, if it opens one. -/
def openedItem? : Event.Body → Option Item
  | .itemAdded _ item => some item
  | _ => none

/-- The items that are opened in what is told. -/
def opened (told : List Event.Body) : List Item := told.filterMap openedItem?

@[simp]
theorem opened_append (told more : List Event.Body) :
    opened (told ++ more) = opened told ++ opened more := List.filterMap_append

theorem opened_deltas (index : Int) (id s : String) : opened (ItemBuilder.deltas index id s) = [] := by
  unfold ItemBuilder.deltas
  split <;> rfl

theorem opened_completion (b : ItemBuilder) : opened b.completion = [] := by
  unfold ItemBuilder.completion
  split
  · rfl
  · split <;> rfl

/-- The first content of an item opens one item, with the identifier that was drawn for it. -/
theorem opened_opening {k : BuilderKind} {c : Content} (hs : k.supports c = true) (index : Int)
    (id : String) :
    ∃ i, opened (ItemBuilder.opening k index id c) = [i] ∧ i.id? = some id ∧
      i.category = k.category := by
  have hcategory := BuilderKind.category_eq hs
  by_cases ht : k = .text
  · subst ht
    obtain ⟨s, hc⟩ := BuilderKind.supports_text_iff.mp hs
    rw [opening_text hc, opened_append, opened_deltas]
    exact ⟨_, rfl, rfl, rfl⟩
  · obtain ⟨_, _, _, hc, h⟩ | ⟨_, _, _, hc, h⟩ | ⟨part, hpart, h⟩ :=
      BuilderKind.opening_whole hs ht index id
    · simp only [Content.item, hc] at hcategory
      rw [h]
      exact ⟨_, rfl, rfl, hcategory⟩
    · simp only [Content.item, hc] at hcategory
      rw [h]
      exact ⟨_, rfl, rfl, hcategory⟩
    · rw [h]
      refine ⟨_, rfl, rfl, ?_⟩
      cases k <;> first | rfl | cases hpart

/-! ### Stretches -/

/-- The items that a stretch opens are named from what it begins with, and nothing else is
drawn if it ends well. -/
structure Stretch.Names (supply : Supply) (s : Stretch) : Prop where
  ids : s.state.supply.ids = supply.ids
  named : supply.ids.Named supply.entropy (opened s.bodies)
  entropy : s.failure = none →
    s.state.supply.entropy = supply.ids.after (opened s.bodies).length supply.entropy

namespace Stretch.Names
variable {supply : Supply} {s : Stretch}

/-- A stretch that opens nothing draws nothing. -/
theorem of_silent (hids : s.state.supply.ids = supply.ids)
    (hentropy : s.failure = none → s.state.supply.entropy = supply.entropy)
    (hopened : opened s.bodies = []) : Names supply s := by
  refine ⟨hids, ?_, fun h => ?_⟩
  · rw [hopened]
    exact supply.ids.named_nil supply.entropy
  · rw [hopened, hentropy h, List.length_nil, supply.ids.after_zero]

theorem quiet (p : State) : Names p.supply (.quiet p) := of_silent rfl (fun _ => rfl) rfl

theorem failed (p : State) (entropy : Entropy) (f : Failure) :
    Names p.supply (.failed { p with supply := { p.supply with entropy } } f) :=
  of_silent rfl (fun h => by cases h) rfl

theorem andThen {next : State → Stretch} (h : Names supply s)
    (hnext : ∀ q, Names q.supply (next q)) : Names supply (s.andThen next) := by
  cases hs : s.failure with
  | some f => rwa [andThen_of_fails next hs]
  | none =>
    obtain ⟨hids, hnamed, hentropy⟩ := hnext s.state
    rw [h.ids] at hids hnamed hentropy
    rw [h.entropy hs] at hnamed hentropy
    refine ⟨?_, ?_, fun hends => ?_⟩
    · rw [state_andThen next hs, hids]
    · rw [bodies_andThen next hs, opened_append]
      exact h.named.append hnamed
    · rw [state_andThen next hs, bodies_andThen next hs, opened_append, List.length_append,
        hentropy (failure_andThen_eq_none.mp hends).2, supply.ids.after_after]

theorem attended {voice : Voice} (h : Names supply s) : Names supply (s.attended voice) := by
  refine ⟨h.ids, ?_, fun hends => ?_⟩
  · rw [bodies_attended]
    exact h.named
  · rw [bodies_attended]
    exact h.entropy hends

end Stretch.Names

open Stretch (Names)

/-! ### The parts of a run -/

theorem close_names (p : State) : Names p.supply (close p) := by
  refine .of_silent (close_telling p).ids (fun _ => close_entropy p) ?_
  rw [(close_tells p).2.1, Account.closing]
  cases p.account.builder with
  | none => rfl
  | some b => exact opened_completion b

/-- A builder draws one identifier of its category, where one can be drawn. -/
theorem draw_named (s : Supply) (k : BuilderKind) :
    s.draw (ItemBuilder.drawId k) =
      if s.ids.layout.entropy < 0 then (.error (.misuse .negativeLength), s)
      else (.ok (s.ids.named k.category s.entropy), { s with entropy := s.ids.after 1 s.entropy }) := by
  have hlabel : ∃ category, s.draw (ItemBuilder.drawId k) =
      ((s.ids.generate (some category) s.entropy).1,
        { s with entropy := (s.ids.generate (some category) s.entropy).2 }) ∧
      Identifier.label (some category) = k.category := by
    cases k <;> exact ⟨_, rfl, rfl⟩
  obtain ⟨category, hdraw, hcategory⟩ := hlabel
  rw [hdraw]
  split
  next h => rw [s.ids.generate_of_negative _ _ h]
  next h => rw [s.ids.generate_eq _ _ (by omega), hcategory]

theorem emitBodies_names {supply : Supply} (p : State) (b : ItemBuilder) {told : List Event.Body}
    (hids : p.supply.ids = supply.ids) (hnamed : supply.ids.Named supply.entropy (opened told))
    (hentropy : p.supply.entropy = supply.ids.after (opened told).length supply.entropy) :
    Names supply (emitBodies p b told) := by
  obtain ⟨-, hbodies, -⟩ := emitBodies_tells p b told
  refine ⟨(emitBodies_telling p b told).ids.trans hids, ?_, fun _ => ?_⟩
  · rwa [hbodies]
  · rw [hbodies, emitBodies_entropy, hentropy]

/-- A builder that takes a content draws where it is its item's first, and then opens the item. -/
theorem tell_names (p : State) {b : ItemBuilder} {c : Content} (hs : b.kind.supports c = true) :
    Names p.supply (tell p b c) := by
  have hstart : b.start c = if b.completed then .error (.generatorState Report.completedGenerator)
      else .ok ({ b with completed := b.kind != .text }, .fresh c) := by
    unfold ItemBuilder.start ItemBuilder.accept
    rw [hs]
    cases b.completed <;> rfl
  unfold tell
  rw [hstart]
  cases b.completed with
  | true => exact .failed p p.supply.entropy _
  | false =>
    simp only [Bool.false_eq_true, if_false, ItemBuilder.unfold]
    cases b.itemId with
    | some id =>
      refine emitBodies_names p _ rfl ?_ ?_
      · rw [opened_deltas]
        exact p.supply.ids.named_nil p.supply.entropy
      · rw [opened_deltas, List.length_nil, p.supply.ids.after_zero]
    | none =>
      by_cases hnegative : p.supply.ids.layout.entropy < 0
      · rw [draw_named, if_pos hnegative]
        exact .failed { p with
          builder := some { b with completed := b.kind != .text, itemId := none } } p.supply.entropy _
      · rw [draw_named, if_neg hnegative]
        obtain ⟨i, hopened, hid, hcategory⟩ :=
          opened_opening hs b.index (p.supply.ids.named b.kind.category p.supply.entropy)
        refine emitBodies_names { p with supply := _ } _ rfl ?_ ?_
        · rw [hopened]
          exact p.supply.ids.named_single hid hcategory
        · rw [hopened]
          rfl

theorem names_law : Stretch.TellingLaw fun p s => Names p.supply s where
  quiet := .quiet
  failed := .failed
  tell := tell_names
  close := close_names
  andThen h hnext := h.andThen hnext
  of_start h _ hsupply _ := hsupply ▸ h

theorem terminal_names (g : Setting) (p : State) : Names p.supply (terminal g p) := by
  unfold terminal
  split
  · exact .of_silent rfl (fun _ => rfl) rfl
  · exact .failed p p.supply.entropy _
  · exact .of_silent rfl (fun _ => rfl) rfl

theorem act_names (g : Setting) (p : State) (a : Act) : Names p.supply (act g p a) := by
  cases a with
  | opening => exact .of_silent rfl (fun _ => rfl) rfl
  | step s => exact names_law.step g p s
  | closing => exact close_names { p with phase := .draining, source := .over }
  | verdict => exact (terminal_names g p).andThen fun q => .quiet { q with phase := .done }

/-! ### The output -/

/-- A stretch ends with a response whose items are named from some characters, and nothing else
was drawn of them. -/
def Stretch.EndsNamed (ids : IdSource) (e : Entropy) (run : Stretch) : Prop :=
  ∃ kind last, run.bodies.getLast? = some (.envelope kind last) ∧ ids.Named e last.output ∧
    run.state.supply.entropy = ids.after last.output.length e

theorem Lifecycle.tags {index : Int} {id : String} {life : List Event.Body}
    (h : Lifecycle index id life) :
    (opened life).map Item.tag = (finished life).map Item.tag := by
  cases h with
  | @text chunks _ =>
    have hopened : opened (chunks.map (.textDelta id index 0 · [])) = [] := by
      simp [opened, openedItem?]
    have hfinished : finished (chunks.map (.textDelta id index 0 · [])) = [] := by
      simp [finished, bodyItem?]
    rw [beginning, opened_append, opened_append, finished_append, finished_append, hopened, hfinished]
    rfl
  | call | result | part => rfl

/-- What is opened in whole lives is finished in the same order. -/
theorem Lifecycles.tags {first index : Int} {told : List Event.Body}
    (h : Lifecycles first told index) :
    (opened told).map Item.tag = (finished told).map Item.tag := by
  induction h with
  | nil => rfl
  | snoc _ last ih =>
    rw [opened_append, finished_append, List.map_append, List.map_append, ih, last.tags]

namespace Attended
variable (g : Setting) (voice : Voice)

theorem run_names (p : State) (as : List Act) : Names p.supply (run g voice p as) := by
  induction as generalizing p with
  | nil => exact .quiet p
  | cons a rest ih => exact (act_names g p a).attended.andThen ih

/-- **Every run, however it ends, names the items that it opens in their order**, and draws
nothing else if it ends well. -/
theorem project_names (p : State) (source : List RunStep) :
    Names p.supply (project g voice p source) := by
  unfold project
  split
  · exact run_names g voice p (acts source)
  · exact .failed p p.supply.entropy _

/-- **The output of a run that ends well is named in its order**, and nothing was drawn for
anything else. -/
theorem project_named {supply : Supply} {reason : Option Value} {cancelled : Bool}
    {source : List RunStep}
    (h : (project g voice (State.fresh supply reason cancelled) source).failure = none) :
    (project g voice (State.fresh supply reason cancelled) source).EndsNamed supply.ids
      supply.entropy := by
  let run := project g voice (State.fresh supply reason cancelled) source
  obtain ⟨told, a, kind, last, htale, hverdict, hbodies, -⟩ := project_tale g voice h
  have hbodies : run.bodies = _ := hbodies
  obtain ⟨-, hnamed, hentropy⟩ := project_names g voice (State.fresh supply reason cancelled) source
  have hopened : opened run.bodies = opened (told ++ a.closing) := by
    rw [hbodies, opened_append, opened_append]
    exact List.append_nil _
  have houtput : last.output = finished (told ++ a.closing) := by
    rw [hverdict.output_eq, Account.closed, htale.output_eq, finished_append]
    rfl
  have htags : last.output.map Item.tag = (opened run.bodies).map Item.tag := by
    rw [houtput, hopened, htale.progress.closing.tags]
  have hlength : last.output.length = (opened run.bodies).length := by
    simpa using congrArg List.length htags
  refine ⟨kind, last, ?_, hnamed.congr htags, ?_⟩
  · rw [hbodies, List.getLast?_concat]
  · rw [hlength]
    exact hentropy h

/-- Every snapshot of a run has named items. -/
theorem snapshot_named {supply : Supply} {reason : Option Value} {cancelled : Bool}
    {source : List RunStep} {kind : Envelope} {s : Response}
    (hmem : .envelope kind s ∈
      (project g voice (State.fresh supply reason cancelled) source).bodies) :
    supply.ids.Named supply.entropy s.output := by
  obtain ⟨-, rfl⟩ | ⟨hends, hlast, -⟩ := envelope_cases g voice hmem
  · exact supply.ids.named_nil supply.entropy
  · obtain ⟨kind', last, hlast', hnamed, -⟩ := project_named g voice hends
    obtain ⟨rfl, rfl⟩ := Event.Body.envelope.inj (Option.some.inj (hlast.symm.trans hlast'))
    exact hnamed

end Attended
end Projection
end AgentGateway
