import AgentGateway.Proofs.Projection.Chunking
import AgentGateway.Proofs.Projection.Lifecycle

/-! What can keep an event from going out.

An event goes out unless one of its parts of unknown shape cannot. Whatever is told of an item
is made of texts alone and has no such part (`Tale.ofItem`). A snapshot has those that it echoes
of its request, and no others (`Response.document_build`). So the request decides: either all
events of a run can go out, or none that carries a snapshot can. -/
namespace AgentGateway

/-! ### Snapshots -/

namespace Request

/-- The parts of unknown shape that every snapshot of a response echoes, in their order. -/
def echoed (r : Request) : List Value :=
  r.agent.toList.flatMap (·.extra.values) ++ r.conversation.toList.flatMap (·.extra.values) ++
    ((r.tools.getD []).map Tool.strict).flatMap Keyed.values ++ [r.toolChoice] ++
    r.reasoning.toList.flatMap (·.extra.values) ++ r.textSettings.toList.flatMap TextSettings.loose

/-- What keeps the snapshots of a response from going out. -/
def echoFault? (r : Request) : Option WireFault := r.echoed.findSome? Value.wireFault?

end Request

namespace Response
variable (r : Request) (ids : IdSource) (status : ResponseStatus) {output : List Item}
  (usage : Option Usage) (createdAt : Int) (houtput : ∀ i ∈ output, i.loose = [])
include houtput

/-- A snapshot has no parts of unknown shape but those that it echoes. -/
theorem loose_build : (build r ids status output usage createdAt).loose = r.echoed := by
  have hitems : output.flatMap Item.loose = [] := List.flatMap_eq_nil_iff.mpr houtput
  have husage : (UsageReport.ofUsage usage).loose = [] := by cases usage <;> rfl
  have hconversation : (conversationOf r ids).toList.flatMap (·.extra.values) =
      r.conversation.toList.flatMap (·.extra.values) := by
    cases h : r.conversation with
    | some c => simp only [conversationOf, h]
    | none =>
      simp only [conversationOf, h]
      split <;> rfl
  have hnone : Keyed.values ([] : Fields) = [] := rfl
  simp only [loose, build, hitems, husage, hconversation, hnone, Request.echoed,
    Option.toList_none, List.flatMap_nil, List.append_nil]

theorem document_build : (build r ids status output usage createdAt).document =
    match r.echoFault? with
    | some f => .error (.ofWire f)
    | none => .ok (build r ids status output usage createdAt).write := by
  rw [document, loose_build r ids status usage createdAt houtput]
  rfl

end Response

/-! ### Items -/

/-- Something that is told of one item, of which no part is of unknown shape. -/
def Event.Body.OfItem : Event.Body → Prop
  | .itemAdded _ item | .itemDone _ item => item.loose = []
  | .partAdded _ _ _ part | .partDone _ _ _ part => part.loose = []
  | .textDelta _ _ _ _ logprobs | .textDone _ _ _ _ logprobs => logprobs = []
  | .argumentsDelta .. | .argumentsDone .. => True
  | .envelope .. | .error .. | .other _ => False

theorem Event.document_of_ofItem {e : Event} (h : e.body.OfItem) (hplain : e.extra = []) :
    e.document = .ok e.write := by
  have hloose : e.loose = [] := by
    obtain ⟨number, body, extra⟩ := e
    obtain rfl : extra = [] := hplain
    cases body with
    | itemAdded | itemDone | partAdded | partDone | textDelta | textDone =>
      exact (List.append_nil _).trans h
    | argumentsDelta | argumentsDone => rfl
    | envelope | error | other => exact h.elim
  rw [document, hloose]
  rfl

theorem BuilderKind.loose_of_part {k : BuilderKind} {c : Content} {part : Part}
    (h : k.part? c = some part) : part.loose = [] := by
  obtain ⟨properties, body⟩ := c
  cases k <;> cases body <;> cases h <;> rfl

namespace ItemBuilder
open Event.Body (OfItem)

theorem deltas_ofItem (index : Int) (id s : String) : ∀ b ∈ deltas index id s, b.OfItem := by
  unfold deltas
  split <;> simp [OfItem]

theorem opening_ofItem {k : BuilderKind} {c : Content} (hs : k.supports c = true) (index : Int)
    (id : String) : ∀ b ∈ opening k index id c, b.OfItem := by
  by_cases ht : k = .text
  · subst ht
    obtain ⟨s, hc⟩ := BuilderKind.supports_text_iff.mp hs
    rw [Projection.opening_text hc]
    refine List.forall_mem_append.mpr ⟨?_, deltas_ofItem index id s⟩
    exact List.forall_mem_cons.mpr ⟨rfl, List.forall_mem_singleton.mpr rfl⟩
  · obtain ⟨_, _, _, -, h⟩ | ⟨_, _, _, -, h⟩ | ⟨part, hpart, h⟩ :=
      BuilderKind.opening_whole hs ht index id
    · rw [h]
      simp [callBlock, OfItem, Item.functionCall, Item.loose, Keyed.values]
    · rw [h]
      simp [outputBlock, OfItem, Item.functionOutput, Item.loose, Part.outputText, Part.plain,
        Part.loose, Keyed.values]
    · rw [h]
      simp [partBlock, OfItem, Item.message, Item.loose, Keyed.values,
        BuilderKind.loose_of_part hpart]

theorem completion_ofItem (b : ItemBuilder) : ∀ body ∈ b.completion, body.OfItem := by
  unfold completion
  split
  · simp
  · split
    · simp [closing, OfItem, Item.message, Item.loose, Part.outputText, Part.plain, Part.loose,
        Keyed.values]
    · simp

end ItemBuilder

namespace Projection
variable {kinds : List BuilderKind} {l : Layout} {a a' : Account} {told : List Event.Body}

theorem Account.closing_ofItem (a : Account) : ∀ b ∈ a.closing, b.OfItem := by
  unfold closing
  cases a.builder with
  | none => simp
  | some b => exact b.completion_ofItem

theorem Tells.ofItem {beat : Beat} (h : Tells kinds l a beat told a') : ∀ b ∈ told, b.OfItem := by
  cases h with
  | boundary | dropped => exact a.closing_ofItem
  | usage => simp
  | delta => exact ItemBuilder.deltas_ofItem _ _ _
  | text _ _ _ _ hc =>
    exact ItemBuilder.opening_ofItem (BuilderKind.supports_text_iff.mpr ⟨_, hc⟩) _ _
  | whole id _ _ hs =>
    exact fun b hb => (List.mem_append.mp hb).elim (a.closing_ofItem b)
      (ItemBuilder.opening_ofItem hs _ id b)

/-- Whatever a tale tells is told of items, and no part of it is of unknown shape. -/
theorem Tale.ofItem {bs : List Beat} (h : Tale kinds l a bs told a') : ∀ b ∈ told, b.OfItem := by
  induction h with
  | nil => simp
  | cons head _ ih => exact fun b hb => (List.mem_append.mp hb).elim (head.ofItem b) (ih b)

theorem finished_append (told more : List Event.Body) :
    finished (told ++ more) = finished told ++ finished more := List.filterMap_append

/-- The output grows by the items that are told to be done. -/
theorem Tells.output_eq {beat : Beat} (h : Tells kinds l a beat told a') :
    a'.output = a.output ++ finished told := by
  have hnone : a.output = a.output ++ [] := (List.append_nil _).symm
  cases h with
  | boundary | dropped => rfl
  | usage => exact hnone
  | delta =>
    rw [finished_deltas]
    exact hnone
  | text _ _ _ _ hc =>
    rw [finished_text hc]
    exact hnone
  | whole =>
    rw [finished_append, ← List.append_assoc]
    rfl

theorem Tale.output_eq {bs : List Beat} (h : Tale kinds l a bs told a') :
    a'.output = a.output ++ finished told := by
  induction h with
  | nil => exact (List.append_nil _).symm
  | cons head _ ih =>
    rw [ih, head.output_eq, finished_append, List.append_assoc]

theorem finished_loose (h : ∀ b ∈ told, b.OfItem) : ∀ i ∈ finished told, i.loose = [] := by
  intro i hi
  obtain ⟨b, hb, hitem⟩ := List.mem_filterMap.mp hi
  cases b with
  | itemDone index item =>
    obtain rfl := Option.some.inj hitem
    exact h _ hb
  | _ => cases hitem

/-! ### Runs that nobody speaks to -/

/-- A run over updates and failures tells that it is created and in progress, then of items, and
if it ends well that it is completed. -/
theorem project_unheard (g : Setting) (supply : Supply) {source : List RunStep}
    (hwords : ∀ s ∈ source, s.word? = none) :
    let run := project g (State.fresh supply none false) source
    ∃ (told : List Event.Body) (a : Account),
      (∀ b ∈ told, b.OfItem) ∧ (∀ i ∈ a.output, i.loose = []) ∧
      run.bodies = Attended.heralds g supply.ids ++ told ++
        match run.failure with
        | none => [.envelope .completed (a.snapshot g supply.ids .completed)]
        | some _ => [] := by
  intro run
  cases hrun : run.failure with
  | some f =>
    have hfails : run.failure ≠ none := by simp [hrun]
    have hsilent : Attended.project g .silent (State.fresh supply none false) source = run :=
      Attended.project_silent g _ source
    obtain ⟨bs, told, a, last, htale, hbodies, ⟨-, rfl⟩ | ⟨hends, -⟩⟩ :=
      Attended.project_told g .silent supply none false source
    · rw [hsilent] at hbodies
      refine ⟨told, .empty, htale.ofItem, fun i hi => ?_, hbodies⟩
      cases hi
    · rw [hsilent] at hends
      exact absurd hends hfails
  | none =>
    obtain ⟨told, a, kind, last, htale, hverdict, hbodies, -⟩ := project_tale hrun
    rw [reasonAfter_unheard none hwords] at hverdict
    cases hverdict
    have hoftold : ∀ b ∈ told ++ a.closing, b.OfItem :=
      List.forall_mem_append.mpr ⟨htale.ofItem, a.closing_ofItem⟩
    refine ⟨told ++ a.closing, a.closed, hoftold, ?_, hbodies⟩
    have houtput : a.closed.output = finished (told ++ a.closing) := by
      rw [finished_append, Account.closed, htale.output_eq]
      rfl
    rw [houtput]
    exact finished_loose hoftold

theorem document_of_snapshot {e : Event} {kind : Envelope} {g : Setting} {ids : IdSource}
    {status : ResponseStatus} (hbody : e.body = .envelope kind (a.snapshot g ids status))
    (hplain : e.extra = []) (houtput : ∀ i ∈ a.output, i.loose = []) :
    e.document = match g.request.echoFault? with
      | some f => .error (.ofWire f)
      | none => .ok e.write := by
  have hloose : e.loose = g.request.echoed := by
    obtain ⟨number, body, extra⟩ := e
    obtain rfl : extra = [] := hplain
    obtain rfl : body = _ := hbody
    exact (List.append_nil _).trans (Response.loose_build _ _ _ _ _ houtput)
  rw [Event.document, hloose]
  rfl

/-- Where what is echoed of the request can go out, all events of a run can. -/
theorem project_outgoing (g : Setting) (supply : Supply) {source : List RunStep}
    (hwords : ∀ s ∈ source, s.word? = none) (hecho : g.request.echoFault? = none) :
    ∀ e ∈ (project g (State.fresh supply none false) source).events, e.document = .ok e.write := by
  intro e he
  have hplain := project_plain g supply none false source e he
  have hsnapshot {kind : Envelope} {status : ResponseStatus} {a : Account}
      (hbody : e.body = .envelope kind (a.snapshot g supply.ids status))
      (houtput : ∀ i ∈ a.output, i.loose = []) : e.document = .ok e.write := by
    rw [document_of_snapshot hbody hplain houtput, hecho]
  obtain ⟨told, a, hofItem, houtput, hbodies⟩ := project_unheard g supply hwords
  have hmem : e.body ∈ (project g (State.fresh supply none false) source).bodies :=
    List.mem_map_of_mem he
  rw [hbodies, List.mem_append, List.mem_append] at hmem
  obtain (hherald | htold) | hlast := hmem
  · have hempty : ∀ i ∈ Account.empty.output, i.loose = [] := fun i hi => by cases hi
    obtain hbody | hbody : e.body = _ ∨ e.body = _ := by simpa [Attended.heralds] using hherald
    · exact hsnapshot hbody hempty
    · exact hsnapshot hbody hempty
  · exact Event.document_of_ofItem (hofItem _ htold) hplain
  · split at hlast
    · exact hsnapshot (List.mem_singleton.mp hlast) houtput
    · cases hlast

/-- Where it cannot, the first event cannot. -/
theorem project_blocked (g : Setting) (supply : Supply) (source : List RunStep) {f : WireFault}
    (hecho : g.request.echoFault? = some f) :
    ∃ first rest, (project g (State.fresh supply none false) source).events = first :: rest ∧
      first.number = supply.number ∧ first.document = .error (.ofWire f) := by
  have hopening : (opening g (State.fresh supply none false)).failure = none :=
    (opening_tells g _).1
  let first : Event := .plain supply.number
    (.envelope .created (Account.empty.snapshot g supply.ids .inProgress))
  have hdocument : first.document = .error (.ofWire f) := by
    rw [document_of_snapshot (e := first) rfl rfl (fun i hi => by cases hi), hecho]
  rw [project_fresh, Stretch.events_andThen _ hopening]
  exact ⟨first, _, rfl, rfl, hdocument⟩

end Projection
end AgentGateway
