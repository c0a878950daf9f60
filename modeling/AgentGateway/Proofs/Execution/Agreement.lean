import AgentGateway.Execution
import AgentGateway.Proofs.Projection.Materialization

/-! Streaming and not streaming agree.

An agent that gathers its own stream is asked the same either way. `stream_agrees_respond`:
where media, files and errors are streamed as well and the agent does not reason aloud, the
response at the end of the stream and the response that is given at once say the same. Either
way the call fails exactly where it is not `Answerable`: an item's identifier cannot be drawn, or a
content be spelled, or a tool be copied. -/
namespace AgentGateway

namespace BuilderKind

/-- Something becomes of whatever a kind supports. -/
theorem not_silent_of_supports {k : BuilderKind} {c : Content} (hs : k.supports c = true) :
    ¬c.Silent := by
  rintro ⟨hcall, hparts⟩
  by_cases ht : k = .text
  · subst ht
    obtain ⟨s, hc⟩ := supports_text_iff.mp hs
    rw [Content.item_text hc] at hparts
    cases hparts
  · obtain ⟨_, _, _, hc, -⟩ | ⟨_, _, _, hc, -⟩ | ⟨part, hp, -⟩ := opening_whole hs ht 0 ""
    · simp [Content.item, hc, Item.call?] at hcall
    · simp [Content.item, hc, Item.call?, Item.functionOutput] at hcall
    · rw [item_of_part hs hp] at hparts
      cases hparts

/-- The extended kinds support whatever something becomes of, except for reasoning. -/
theorem supported_extended {c : Content} (hc : ∀ s, c.body ≠ .reasoning s) (hloud : ¬c.Silent) :
    supported extended c = true := by
  obtain ⟨properties, body⟩ := c
  cases body with
  | text | functionCall | functionResult | hostedFile | error => rfl
  | reasoning s => exact absurd rfl (hc s)
  | data uri mediaType name =>
    by_cases hi : Content.hasTopLevel mediaType "image" = true
    · exact supported_of_supports (k := .image) (by decide) hi
    · by_cases ha : Content.hasTopLevel mediaType "audio" = true
      · exact supported_of_supports (k := .audio) (by decide) ha
      · refine supported_of_supports (k := .file) (by decide) ?_
        simp [supports, Content.isFile, hi, ha]
  | uri uri mediaType =>
    by_cases hi : Content.isImage ⟨properties, .uri uri mediaType⟩ = true
    · exact supported_of_supports (k := .image) (by decide) hi
    · refine absurd ⟨rfl, ?_⟩ hloud
      simp [Content.item, Content.shown, Part.ofContent, hi, Item.message, Item.parts]
  | usage => exact absurd ⟨rfl, rfl⟩ hloud

theorem supported_extended_iff {c : Content} (hc : ∀ s, c.body ≠ .reasoning s) :
    supported extended c = true ↔ ¬c.Silent := by
  refine ⟨fun h => ?_, supported_extended hc⟩
  obtain ⟨k, -, hs⟩ := List.any_eq_true.mp h
  exact not_silent_of_supports hs

theorem unsupported_extended_iff {c : Content} (hc : ∀ s, c.body ≠ .reasoning s) :
    (∀ k ∈ extended, k.supports c = false) ↔ c.Silent := by
  refine ⟨fun hu => Classical.byContradiction fun hloud => ?_, fun hsilent k hk => ?_⟩
  · have hs := supported_extended hc hloud
    rw [supported_eq_false hu] at hs
    cases hs
  · exact Bool.eq_false_iff.mpr fun hs => not_silent_of_supports hs hsilent

/-- So whatever cannot be spelled of what they are told ends a run. -/
theorem limit?_extended {c : Content} (hc : ∀ s, c.body ≠ .reasoning s) :
    limit? extended c = c.limit? := by
  by_cases hsilent : c.Silent
  · rw [limit?_of_unsupported ((unsupported_extended_iff hc).mpr hsilent),
      Content.limit?_of_silent hsilent]
  · exact limit?_of_supported (supported_extended hc hsilent)

end BuilderKind

namespace Projection

theorem conveyed_by_items {cs : List Content}
    (h : ∀ c ∈ cs, (BuilderKind.supported BuilderKind.extended c = true ↔ ¬c.Silent)) :
    ((items BuilderKind.extended cs).filterMap Item.call? = cs.filterMap fun c => c.item.call?) ∧
      (items BuilderKind.extended cs).flatMap Item.parts = cs.flatMap fun c => c.item.parts := by
  induction cs with
  | nil => exact ⟨rfl, rfl⟩
  | cons c rest ih =>
    obtain ⟨hcalls, hparts⟩ := ih fun c' hc' => h c' (List.mem_cons_of_mem c hc')
    have hc := h c (List.mem_cons_self ..)
    cases hs : BuilderKind.supported BuilderKind.extended c with
    | true =>
      have hitems : items BuilderKind.extended (c :: rest) =
          c.item :: items BuilderKind.extended rest := by
        simp only [items, List.filter_cons_of_pos hs, List.map_cons]
      rw [hitems, List.filterMap_cons, List.flatMap_cons, hcalls, hparts]
      exact ⟨rfl, rfl⟩
    | false =>
      have hsilent : c.Silent := Classical.byContradiction fun hloud => by
        rw [hc.mpr hloud] at hs
        cases hs
      have hitems : items BuilderKind.extended (c :: rest) = items BuilderKind.extended rest := by
        simp [items, hs]
      simp [hitems, hcalls, hparts, hsilent.1, hsilent.2]

/-- Items of which all is told that becomes of some contents convey these contents. -/
theorem conveys_of_items {output : List Item} {cs : List Content}
    (hr : ∀ c ∈ cs, ∀ s, c.body ≠ .reasoning s)
    (h : output.map Item.sansId = items BuilderKind.extended cs) : Item.Conveys output cs := by
  have hloud : ∀ c ∈ cs, (BuilderKind.supported BuilderKind.extended c = true ↔ ¬c.Silent) :=
    fun c hc => BuilderKind.supported_extended_iff (hr c hc)
  have hcalls : output.filterMap Item.call? =
      (items BuilderKind.extended cs).filterMap Item.call? := by
    rw [← h, List.filterMap_map]
    exact congrArg (output.filterMap ·) (funext fun i => (Item.call?_sansId i).symm)
  have hparts : output.flatMap Item.parts = (items BuilderKind.extended cs).flatMap Item.parts := by
    rw [← h, List.flatMap_map]
    exact congrArg (output.flatMap ·) (funext fun i => (Item.parts_sansId i).symm)
  obtain ⟨hall, hevery⟩ := conveyed_by_items hloud
  refine ⟨hcalls.trans hall, hparts.trans hevery, fun i hi => ?_⟩
  have hmem : i.sansId ∈ items BuilderKind.extended cs := h ▸ List.mem_map_of_mem hi
  obtain ⟨c, hc, hitem⟩ := List.mem_map.mp hmem
  obtain ⟨hc, hsupported⟩ := List.mem_filter.mp hc
  exact Item.plain_of_sansId hitem.symm ((hloud c hc).mp hsupported)

end Projection

/-- Two responses that say the same. They may differ in their items' identifiers, in how parts
are gathered in messages, in where calls stand among messages, and in their times. -/
structure SameAnswer (a b : Response) : Prop where
  calls : a.output.filterMap Item.call? = b.output.filterMap Item.call?
  parts : a.output.flatMap Item.parts = b.output.flatMap Item.parts
  plain : ∀ i ∈ a.output ++ b.output, i.Plain
  usage : a.usage = b.usage
  rest : { a with output := b.output, createdAt := b.createdAt } = b

/-! ### The contents of a materialized run -/

namespace Run

/-- The first limit that stands in the way of an answer with the contents of a run. -/
def limit? (run : Run) : Option Limit :=
  (run.messages.flatMap Message.contents).findSome? Content.limit?

theorem limit?_eq_none_iff {run : Run} :
    run.limit? = none ↔ ∀ c ∈ run.messages.flatMap Message.contents, c.limit? = none :=
  List.findSome?_eq_none_iff

/-- The contents of the messages that some updates add up to. -/
def said (us : List Update) : List Content := (ofUpdates us).messages.flatMap Message.contents

theorem forall_unsupported_iff (kinds : List BuilderKind) (us : List Update) :
    (∀ c ∈ said us, ∀ k ∈ kinds, k.supports c = false) ↔
      ∀ c ∈ us.flatMap Update.contents, ∀ k ∈ kinds, k.supports c = false := by
  refine forall_mem_ofUpdates_iff (fun p q s t h k hk => ?_) (fun p details k _ => ?_) us
  · have hs := h k hk
    rw [BuilderKind.supports_of_text (s := s) rfl] at hs
    rw [BuilderKind.supports_of_text (s := t) rfl, hs]
  · exact Bool.eq_false_iff.mpr fun hs => BuilderKind.not_usage_of_supports hs details rfl

theorem not_reasoning_of_updates {us : List Update}
    (h : ∀ u ∈ us, ∀ c ∈ u.contents, ∀ s, c.body ≠ .reasoning s) :
    ∀ c ∈ said us, ∀ s, c.body ≠ .reasoning s := by
  refine (forall_mem_ofUpdates_iff (by simp) (by simp) us).mpr fun c hc => ?_
  obtain ⟨u, hu, hc⟩ := List.mem_flatMap.mp hc
  exact h u hu c hc

/-- What first stands in the way of an answer with what some updates add up to is what does so with
one of the updates. -/
theorem limit?_ofUpdates (us : List Update) :
    (ofUpdates us).limit? = (us.flatMap Update.contents).findSome? Content.limit? :=
  findSome?_ofUpdates (fun _ _ => rfl) (fun _ _ => rfl) us

theorem forall_limit?_iff {kinds : List BuilderKind} (hk : kinds = BuilderKind.extended)
    {us : List Update} (hr : ∀ c ∈ said us, ∀ s, c.body ≠ .reasoning s) :
    (∀ c ∈ us.flatMap Update.contents, BuilderKind.limit? kinds c = none) ↔
      ∀ c ∈ said us, c.limit? = none := by
  have hupdates := (forall_mem_ofUpdates_iff (by simp) (by simp) us).mp hr
  show _ ↔ ∀ c ∈ (ofUpdates us).messages.flatMap Message.contents, _
  rw [← limit?_eq_none_iff, limit?_ofUpdates, List.findSome?_eq_none_iff, hk]
  exact forall₂_congr fun c hc => by rw [BuilderKind.limit?_extended (hupdates c hc)]

end Run

/-! ### Both ways to answer -/

/-- A request for which an answer can be made that has some contents in it: its tools can be copied,
the contents be spelled, and the items be named, or there are none. -/
structure Answerable (r : Request) (l : Layout) (cs : List Content) : Prop where
  tools : r.limit? = none
  contents : ∀ c ∈ cs, c.limit? = none
  named : 0 ≤ l.entropy ∨ ∀ c ∈ cs, c.Silent

/-- When the response for a run was made: as the run says, or now. -/
def createdAt? (now : Int) (run : Run) : Except Failure Int :=
  match run.createdAt with
  | some m => secondsOf m
  | none => .ok now

/-- The time that a response bears whose items are made already, unless it cannot be told, or a tool
not be copied. -/
def snapshotTime? (r : Request) (now : Int) (run : Run) : Except Failure Int :=
  (createdAt? now run).bind fun t =>
    match r.limit? with
    | some l => .error (.ofLimit l)
    | none => .ok t

/-- The time that the response for a run bears, unless there is none: a content that cannot be
spelled is found out before all else. -/
def answerTime? (r : Request) (now : Int) (run : Run) : Except Failure Int :=
  match run.limit? with
  | some l => .error (.ofLimit l)
  | none => snapshotTime? r now run

theorem answerTime?_of_limit {run : Run} {l : Limit} (hl : run.limit? = some l) (r : Request)
    (now : Int) : answerTime? r now run = .error (.ofLimit l) := by
  rw [answerTime?, hl]

theorem answerTime?_of_spelled {run : Run} (hl : run.limit? = none) (r : Request) (now : Int) :
    answerTime? r now run = snapshotTime? r now run := by
  rw [answerTime?, hl]

namespace Executor
variable {e : Executor} {us : List Update}

/-- The response for a run has the items of the run's messages; only its time may not be told, or
the tools of the request not be copied. -/
theorem respond_of_items {run : Run} (hrun : e.agent.run = .ok run) (r : Request) {ids : IdSource}
    (now : Int) {entropy entropy' : Entropy} {output : List Item}
    (hitems : Item.ofMessages ids run.messages entropy = (.ok output, entropy')) :
    (e.respond r ids now).run entropy =
      ((snapshotTime? r now run).map fun t => .build r ids .completed output run.usage t,
        entropy') := by
  simp only [respond, hrun]
  show Response.ofRun r ids now run entropy = _
  rw [Response.ofRun, Drawing.bind_of_ok hitems, snapshotTime?, createdAt?]
  cases run.createdAt with
  | none => cases r.limit? <;> rfl
  | some m =>
    show (Drawing.ofExcept (secondsOf m) >>= _) entropy' =
      (((secondsOf m).bind _).map _, entropy')
    rw [Drawing.bind_apply, Drawing.ofExcept]
    cases secondsOf m with
    | error f => rfl
    | ok t => cases r.limit? <;> rfl

theorem respond_of_failed {f : Failure} (hrun : e.agent.run = .error f) (r : Request)
    (ids : IdSource) (now : Int) (entropy : Entropy) :
    (e.respond r ids now).run entropy = (.error (escalate f), entropy) := by
  simp only [respond, hrun]
  rfl

theorem respond_of_unnamed {run : Run} (hrun : e.agent.run = .ok run) (r : Request)
    {ids : IdSource} (now : Int) {entropy entropy' : Entropy} {f : Failure}
    (hitems : Item.ofMessages ids run.messages entropy = (.error f, entropy')) :
    (e.respond r ids now).run entropy = (.error f, entropy') := by
  simp only [respond, hrun]
  show Response.ofRun r ids now run entropy = _
  rw [Response.ofRun, Drawing.bind_of_error hitems]

/-- Where items can be named, a content that cannot be spelled is why there is no response. -/
theorem respond_of_limit {run : Run} (hrun : e.agent.run = .ok run) {l : Limit}
    (hl : run.limit? = some l) (r : Request) {ids : IdSource} (now : Int) (entropy : Entropy)
    (h : 0 ≤ ids.layout.entropy) :
    ∃ entropy', (e.respond r ids now).run entropy = (.error (.ofLimit l), entropy') := by
  obtain ⟨entropy', hitems⟩ := Item.ofMessages_limited run.messages entropy h hl
  exact ⟨entropy', respond_of_unnamed hrun r now hitems⟩

theorem run_of_script (ha : e.agent.answer = none) (hs : e.agent.stream = .ok (us.map .update)) :
    e.agent.run = .ok (Run.ofUpdates us) := by
  have hus (us : List Update) : Agent.updates (us.map .update) = .ok us := by
    induction us with
    | nil => rfl
    | cons u rest ih =>
      rw [List.map_cons, Agent.updates, ih]
      rfl
  have hgather : e.agent.gather = .ok (Run.ofUpdates us) := by
    simp only [Agent.gather, hs, hus, bind, Except.bind, pure, Except.pure]
  rw [Agent.run, ha, Option.getD_none, hgather]
  rfl

theorem snapshotTime?_ofUpdates (r : Request) (now : Int) (us : List Update) :
    snapshotTime? r now (Run.ofUpdates us) = match r.limit? with
      | some l => .error (.ofLimit l)
      | none => .ok now := rfl

theorem respond_conveys (ha : e.agent.answer = none) (hs : e.agent.stream = .ok (us.map .update))
    {r : Request} {ids : IdSource} (now : Int) (entropy : Entropy)
    (h : Answerable r ids.layout (Run.said us)) :
    ∃ output entropy', (e.respond r ids now).run entropy =
        (.ok (.build r ids .completed output (Run.ofUpdates us).usage now), entropy') ∧
      Item.Conveys output (Run.said us) := by
  obtain ⟨output, entropy', hitems, hconveys⟩ :=
    Item.ofMessages_conveys (Run.ofUpdates us).messages entropy h.named h.contents
  refine ⟨output, entropy', ?_, hconveys⟩
  rw [respond_of_items (run_of_script ha hs) r now hitems, snapshotTime?_ofUpdates, h.tools]
  rfl

theorem respond_fails (ha : e.agent.answer = none) (hs : e.agent.stream = .ok (us.map .update))
    {r : Request} {ids : IdSource} (now : Int) (entropy : Entropy)
    (h : ¬Answerable r ids.layout (Run.said us)) :
    ∃ f entropy', (e.respond r ids now).run entropy = (.error f, entropy') := by
  have hrun := run_of_script ha hs
  by_cases hnamed : 0 ≤ ids.layout.entropy ∨ ∀ c ∈ Run.said us, c.Silent
  · cases hl : (Run.ofUpdates us).limit? with
    | some l =>
      have hdrawable : 0 ≤ ids.layout.entropy := hnamed.elim id fun hsilent => by
        rw [Run.limit?_eq_none_iff.mpr fun c hc => Content.limit?_of_silent (hsilent c hc)] at hl
        cases hl
      exact ⟨_, respond_of_limit hrun hl r now entropy hdrawable⟩
    | none =>
      have hcontents := Run.limit?_eq_none_iff.mp hl
      obtain ⟨output, entropy', hitems, -⟩ :=
        Item.ofMessages_conveys (Run.ofUpdates us).messages entropy hnamed hcontents
      obtain ⟨l, htools⟩ : ∃ l, r.limit? = some l :=
        Option.ne_none_iff_exists'.mp fun htools => h ⟨htools, hcontents, hnamed⟩
      refine ⟨.ofLimit l, entropy', ?_⟩
      rw [respond_of_items hrun r now hitems, snapshotTime?_ofUpdates, htools]
      rfl
  · obtain ⟨hnegative, hloud⟩ := not_or.mp hnamed
    have hex : ∃ c ∈ Run.said us, ¬c.Silent := Classical.byContradiction fun hnone =>
      hloud fun c hc => Classical.byContradiction fun hne => hnone ⟨c, hc, hne⟩
    obtain ⟨f, entropy', hitems⟩ : ∃ f entropy',
        Item.ofMessages ids (Run.ofUpdates us).messages entropy = (.error f, entropy') :=
      Item.ofMessages_fails _ entropy (by omega) hex
    exact ⟨f, entropy', respond_of_unnamed hrun r now hitems⟩

section
variable {source : List RunStep} (hs : e.agent.stream = .ok source)
include hs

theorem stream_of_source {r : Request} (hr : r.limit? = none) (supply : Supply) (now : Int)
    (cancellable : Bool) :
    e.stream r supply now cancellable =
      let s := Projection.project ⟨r, e.kinds, now, cancellable⟩
        (Projection.State.fresh supply none false) source
      { s with failure := s.failure.map escalate } := by
  simp only [stream, hs, Projection.launch, hr]
  rfl

/-- Tools that cannot be copied are found out before the first event is made. -/
theorem stream_of_limit {r : Request} {l : Limit} (hr : r.limit? = some l) (supply : Supply)
    (now : Int) (cancellable : Bool) :
    (e.stream r supply now cancellable).emitted = [] ∧
      (e.stream r supply now cancellable).failure =
        some (.report (Failure.ofLimit l).toAgentInvocation) := by
  simp only [stream, hs, Projection.launch, hr]
  exact ⟨rfl, rfl⟩

end

/-- A stream ends well exactly where an answer can be made. -/
theorem stream_ends_iff (hk : e.kinds = BuilderKind.extended)
    (hs : e.agent.stream = .ok (us.map .update))
    (hr : ∀ c ∈ Run.said us, ∀ s, c.body ≠ .reasoning s) (r : Request) (supply : Supply)
    (now : Int) (cancellable : Bool) :
    (e.stream r supply now cancellable).failure = none ↔
      Answerable r supply.ids.layout (Run.said us) := by
  cases htools : r.limit? with
  | some l =>
    rw [(stream_of_limit hs htools supply now cancellable).2]
    refine ⟨fun h => (by cases h), fun h => ?_⟩
    rw [h.tools] at htools
    cases htools
  | none =>
    have hsilent : (∀ c ∈ Run.said us, ∀ k ∈ e.kinds, k.supports c = false) ↔
        ∀ c ∈ Run.said us, c.Silent := by
      refine forall_congr' fun c => forall_congr' fun hc => ?_
      rw [hk, BuilderKind.unsupported_extended_iff (hr c hc)]
    rw [stream_of_source hs htools]
    show Option.map escalate _ = none ↔ _
    rw [Option.map_eq_none_iff, Projection.project_ends_iff, ← Run.forall_unsupported_iff, hsilent,
      Run.forall_limit?_iff hk hr]
    exact ⟨fun ⟨hnamed, hcontents⟩ => ⟨htools, hcontents, hnamed⟩, fun h => ⟨h.named, h.contents⟩⟩

theorem stream_conveys (hk : e.kinds = BuilderKind.extended)
    (hs : e.agent.stream = .ok (us.map .update))
    (hr : ∀ c ∈ Run.said us, ∀ s, c.body ≠ .reasoning s) (r : Request) (supply : Supply)
    (now : Int) (cancellable : Bool) (h : (e.stream r supply now cancellable).failure = none) :
    ∃ output, (e.stream r supply now cancellable).bodies.getLast? = some (.envelope .completed
        (.build r supply.ids .completed output (Run.ofUpdates us).usage now)) ∧
      Item.Conveys output (Run.said us) := by
  have htools := ((stream_ends_iff hk hs hr r supply now cancellable).mp h).tools
  rw [stream_of_source hs htools] at h ⊢
  have hends := Option.map_eq_none_iff.mp h
  obtain ⟨told, a, kind, last, htale, hverdict, hbodies, -⟩ := Projection.project_tale hends
  rw [Projection.updatesOf_updates] at htale
  rw [Projection.reasonAfter_updates] at hverdict
  obtain ⟨houtput, husage⟩ := htale.materializes
  cases hverdict
  refine ⟨a.closed.output, ?_, Projection.conveys_of_items hr (hk ▸ houtput)⟩
  show (Projection.project _ _ _).bodies.getLast? = _
  rw [hbodies, List.getLast?_concat, ← husage]
  rfl

/-- **Streaming and not streaming agree.** Either an answer can be made, and both calls come to an end
and say the same; or it cannot, and both fail. -/
theorem stream_agrees_respond (hk : e.kinds = BuilderKind.extended) (ha : e.agent.answer = none)
    (hs : e.agent.stream = .ok (us.map .update))
    (hr : ∀ u ∈ us, ∀ c ∈ u.contents, ∀ s, c.body ≠ .reasoning s) (r : Request) (supply : Supply)
    (now now' : Int) (cancellable : Bool) (flag : Option Bool) (entropy : Entropy) :
    (Answerable r supply.ids.layout (Run.said us) ∧ ∃ last given entropy',
        (e.stream r supply now cancellable).failure = none ∧
        (e.stream r supply now cancellable).bodies.getLast? = some (.envelope .completed last) ∧
        (e.respond { r with stream := flag } supply.ids now').run entropy =
          (.ok given, entropy') ∧
        SameAnswer last given) ∨
      (¬Answerable r supply.ids.layout (Run.said us) ∧
        (e.stream r supply now cancellable).failure ≠ none ∧
        ∃ f entropy', (e.respond { r with stream := flag } supply.ids now').run entropy =
          (.error f, entropy')) := by
  have hsaid := Run.not_reasoning_of_updates hr
  have hiff := stream_ends_iff hk hs hsaid r supply now cancellable
  by_cases h : Answerable r supply.ids.layout (Run.said us)
  · have hends := hiff.mpr h
    obtain ⟨streamed, hlast, hstreamed⟩ := stream_conveys hk hs hsaid r supply now cancellable hends
    obtain ⟨output, entropy', hgiven, hconveys⟩ := respond_conveys ha hs
      (r := { r with stream := flag }) now' entropy ⟨h.tools, h.contents, h.named⟩
    refine .inl ⟨h, _, _, entropy', hends, hlast, hgiven, ?_, ?_, ?_, rfl, rfl⟩
    · exact hstreamed.calls.trans hconveys.calls.symm
    · exact hstreamed.parts.trans hconveys.parts.symm
    · exact fun i hi => (List.mem_append.mp hi).elim (hstreamed.plain i) (hconveys.plain i)
  · refine .inr ⟨h, fun hends => h (hiff.mp hends), ?_⟩
    exact respond_fails ha hs now' entropy fun hflag =>
      h ⟨hflag.tools, hflag.contents, hflag.named⟩

/-- A message that is told in four items and given in two. -/
def talk : List Update :=
  [⟨⟨some "a", none, none⟩, [.ofText "Loo", .ofText "k: "]⟩,
    ⟨.none, [⟨none, .functionCall "call_1" "draw" none⟩,
      ⟨none, .usage (some ⟨some 3, some 4, none, []⟩)⟩, .ofText "a cat"]⟩,
    ⟨.none, [⟨none, .uri "https://example.com/cat.png" (some "image/png")⟩]⟩]

def talker : Executor :=
  ⟨⟨"a", "", "Agent", .ok (talk.map .update), none⟩, BuilderKind.extended, .ofFields []⟩

theorem talker_agrees :
    talker.kinds = BuilderKind.extended ∧ talker.agent.answer = none ∧
      talker.agent.stream = .ok (talk.map .update) ∧
      (∀ u ∈ talk, ∀ c ∈ u.contents, ∀ s, c.body ≠ .reasoning s) ∧
      Answerable (.ofText "Hi") .standard (Run.said talk) ∧ ∃ last given entropy',
        (talker.stream (.ofText "Hi") ⟨⟨.standard, "resp_1", "conv_1", "key"⟩, 0, .cyclic⟩ 7
          true).failure = none ∧
        (talker.stream (.ofText "Hi") ⟨⟨.standard, "resp_1", "conv_1", "key"⟩, 0, .cyclic⟩ 7
          true).bodies.getLast? = some (.envelope .completed last) ∧
        (talker.respond { Request.ofText "Hi" with stream := some false }
          ⟨.standard, "resp_1", "conv_1", "key"⟩ 9).run .cyclic = (.ok given, entropy') ∧
        SameAnswer last given := by
  have hr : ∀ u ∈ talk, ∀ c ∈ u.contents, ∀ s, c.body ≠ .reasoning s := by
    simp [talk, Content.ofText]
  have hanswerable : Answerable (.ofText "Hi") .standard (Run.said talk) :=
    ⟨rfl, Run.limit?_eq_none_iff.mp (by decide +kernel), .inl (by decide)⟩
  have hagrees := stream_agrees_respond (e := talker) rfl rfl rfl hr (.ofText "Hi")
    ⟨⟨.standard, "resp_1", "conv_1", "key"⟩, 0, .cyclic⟩ 7 9 true (some false) .cyclic
  exact ⟨rfl, rfl, rfl, hr, hagrees.resolve_right fun h => h.1 hanswerable⟩

end Executor
end AgentGateway
