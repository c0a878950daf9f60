import Mathlib.Data.List.TakeWhile
import AgentGateway.Proofs.Execution.Agreement

/-! Streaming and not streaming report the same failure.

A failure of an agent takes one of two ways out: through the run that gathers the agent's
stream, or through the projection of that stream. `failures_agree`: where all that the agent says
can be spelled, either way it becomes the same report, and where nothing fails both calls answer.

What an agent raises is looked at once (`Agent.raised?`): a stream that cannot be begun, or the
first step of it that fails. A stream ends with that or with what cannot be told before it, and
reports either (`Executor.fault?`). What cannot be told of a run that is gathered is found out when
the response is made, and is not reported as a failure of the agent. -/
namespace AgentGateway

/-! ### What an agent raises -/

/-- The failure with which a step ends the stream that it is a step of. -/
def RunStep.raised? : RunStep → Option Failure
  | .fail f => some f.leavingStream
  | _ => none

namespace Agent

/-- The failure that an agent's stream ends with, if it does: that it cannot be begun, or the
first failure among its steps. -/
def raised? (a : Agent) : Option Failure :=
  match a.stream with
  | .error f => some f
  | .ok source => source.findSome? RunStep.raised?

/-- An agent that streams updates, and failures that callers handle. -/
structure Streams (a : Agent) : Prop where
  /-- Nobody speaks from outside between two steps. -/
  unheard : ∀ source, a.stream = .ok source → ∀ s ∈ source, s.word? = none
  handled : ∀ f, a.raised? = some f → f.isHandled = true

/-- An agent that gathers its own stream. -/
structure Scripted (a : Agent) : Prop extends Streams a where
  gathers : a.answer = none

/-- The contents that an agent streams before it fails. -/
def spoken (a : Agent) : List Content :=
  match a.stream with
  | .error _ => []
  | .ok source =>
    (updatesOf (source.takeWhile fun s => s.raised?.isNone)).flatMap Update.contents

end Agent

section
variable {source : List RunStep} (hwords : ∀ s ∈ source, s.word? = none)
include hwords

/-- Steps without words of which none fails are updates. -/
theorem eq_updates_of_not_raised (h : source.findSome? RunStep.raised? = none) :
    source = (updatesOf source).map .update := by
  induction source with
  | nil => rfl
  | cons s rest ih =>
    obtain ⟨hs, hrest⟩ := List.forall_mem_cons.mp hwords
    cases s with
    | update u => exact congrArg (RunStep.update u :: ·) (ih hrest h)
    | fail f => cases h
    | cancel | incomplete => cases hs

/-- Gathering a stream fails with the first failure of a step. -/
theorem updates_of_raised {f : Failure} (h : source.findSome? RunStep.raised? = some f) :
    Agent.updates source = .error f := by
  induction source with
  | nil => cases h
  | cons s rest ih =>
    obtain ⟨hs, hrest⟩ := List.forall_mem_cons.mp hwords
    cases s with
    | update u =>
      rw [Agent.updates, ih hrest h]
      rfl
    | fail g => exact congrArg Except.error (Option.some.inj h)
    | cancel | incomplete => cases hs

end

/-- A stream fails with the first content that cannot be told of those before it fails, or else with
that failure. -/
theorem RunStep.findSome?_failure (kinds : List BuilderKind) (source : List RunStep) :
    source.findSome? (failure? kinds) =
      ((((updatesOf (source.takeWhile fun s => s.raised?.isNone)).flatMap
        Update.contents).findSome? (BuilderKind.limit? kinds)).map Failure.ofLimit).or
          (source.findSome? raised?) := by
  induction source with
  | nil => rfl
  | cons s rest ih =>
    cases s with
    | update u =>
      show _ = (Option.map Failure.ofLimit ((u.contents ++ (updatesOf
        (rest.takeWhile fun s => s.raised?.isNone)).flatMap Update.contents).findSome?
          (BuilderKind.limit? kinds))).or (rest.findSome? raised?)
      rw [List.findSome?_cons, List.findSome?_append, ih, failure?]
      cases u.contents.findSome? (BuilderKind.limit? kinds) <;> rfl
    | fail f => rfl
    | cancel | incomplete => exact ih

/-- What a report of a failed agent tells: the failure itself, if it is such a report, and else
its text. -/
theorem Failure.toAgentInvocation_cases (f : Failure) :
    f = .report f.toAgentInvocation ∨
      (∀ q : Report, f = .report q → q.kind ≠ .agentInvocation) ∧
        f.toAgentInvocation.code = .text Report.serverError ∧
        f.toAgentInvocation.message = .text f.text := by
  cases f with
  | report r =>
    by_cases h : r.kind = .agentInvocation
    · exact .inl (congrArg Failure.report (if_pos h).symm)
    · have hwrapped : (Failure.report r).toAgentInvocation = _ := if_neg h
      refine .inr ⟨fun q hq => ?_, by rw [hwrapped]; rfl, by rw [hwrapped]; rfl⟩
      obtain rfl := Failure.report.inj hq
      exact h
  | misuse | invalid | cancelled | foreign => exact .inr ⟨fun q hq => (by cases hq), rfl, rfl⟩

/-! ### The two ways out -/

namespace Executor

/-- What ends the stream for a request, where identifiers can be drawn: that it cannot be begun, a
tool that cannot be copied, or the first failure of a step. -/
def fault? (e : Executor) (r : Request) : Option Failure :=
  match e.agent.stream with
  | .error f => some f
  | .ok source => (r.limit?.map .ofLimit).or (source.findSome? (RunStep.failure? e.kinds))

/-- Where all can be told, that is what the agent raises. -/
theorem fault?_eq_raised? {e : Executor} {r : Request} (hr : r.limit? = none)
    (hspoken : ∀ c ∈ e.agent.spoken, c.limit? = none) : e.fault? r = e.agent.raised? := by
  unfold fault? Agent.raised?
  cases hs : e.agent.stream with
  | error f => rfl
  | ok source =>
    simp only [Agent.spoken, hs] at hspoken
    dsimp only
    rw [hr, RunStep.findSome?_failure, List.findSome?_eq_none_iff.mpr fun c hc =>
      BuilderKind.limit?_of_spelled (hspoken c hc)]
    rfl

theorem fault?_handled {e : Executor} (he : e.agent.Streams) {r : Request} {f : Failure}
    (h : e.fault? r = some f) : f.isHandled = true := by
  have hlimit {l : Option Limit} (h : l.map Failure.ofLimit = some f) : f.isHandled = true := by
    obtain ⟨l, -, rfl⟩ := Option.map_eq_some_iff.mp h
    rfl
  unfold fault? at h
  cases hs : e.agent.stream with
  | error g =>
    rw [hs] at h
    exact he.handled f (by rw [Agent.raised?, hs]; exact h)
  | ok source =>
    rw [hs] at h
    dsimp only at h
    rw [RunStep.findSome?_failure, Option.or_eq_some_iff, Option.or_eq_some_iff] at h
    obtain h | ⟨-, h | ⟨-, h⟩⟩ := h
    · exact hlimit h
    · exact hlimit h
    · exact he.handled f (by rw [Agent.raised?, hs]; exact h)

theorem stream_failure {e : Executor} (he : e.agent.Streams) (r : Request) (supply : Supply)
    (now : Int) (cancellable : Bool) (h : 0 ≤ supply.ids.layout.entropy) :
    (e.stream r supply now cancellable).failure = (e.fault? r).map escalate := by
  unfold fault?
  cases hs : e.agent.stream with
  | error f =>
    simp only [stream, hs]
    rfl
  | ok source =>
    cases htools : r.limit? with
    | some l => exact (stream_of_limit hs htools supply now cancellable).2
    | none =>
      rw [stream_of_source hs htools]
      exact congrArg (Option.map escalate) (Projection.project_failure
        ⟨r, e.kinds, now, cancellable⟩ supply (he.unheard source hs) (.inl h))

section
variable {e : Executor} (he : e.agent.Scripted)
include he

theorem run_of_raised {f : Failure} (h : e.agent.raised? = some f) :
    e.agent.run = .error f.leavingRun := by
  have hgather : e.agent.gather = .error f := by
    unfold Agent.raised? at h
    unfold Agent.gather
    cases hs : e.agent.stream with
    | error g =>
      rw [hs] at h
      obtain rfl := Option.some.inj h
      rfl
    | ok source =>
      rw [hs] at h
      simp only [bind, Except.bind, updates_of_raised (he.unheard source hs) h]
  rw [Agent.run, he.gathers, Option.getD_none, hgather]
  rfl

theorem stream_of_not_raised (h : e.agent.raised? = none) :
    ∃ us : List Update, e.agent.stream = .ok (us.map .update) ∧
      e.agent.spoken = us.flatMap Update.contents := by
  unfold Agent.raised? at h
  unfold Agent.spoken
  cases hs : e.agent.stream with
  | error f =>
    rw [hs] at h
    cases h
  | ok source =>
    rw [hs] at h
    have hupdates := eq_updates_of_not_raised (he.unheard source hs) h
    refine ⟨updatesOf source, congrArg _ hupdates, ?_⟩
    have hall : source.takeWhile (fun s => s.raised?.isNone) = source :=
      List.takeWhile_eq_self_iff.mpr fun s hs => by
        simp only [List.findSome?_eq_none_iff.mp h s hs, Option.isNone_none]
    dsimp only
    rw [hall]

/-- A response for an agent that raises nothing is made unless what it says cannot be spelled, or a
tool be copied. -/
theorem respond_of_not_raised (h : e.agent.raised? = none) (r : Request) {ids : IdSource}
    (now : Int) (entropy : Entropy) (hdrawable : 0 ≤ ids.layout.entropy) :
    match (e.agent.spoken.findSome? Content.limit?).or r.limit? with
    | some l => ∃ entropy', (e.respond r ids now).run entropy = (.error (.ofLimit l), entropy')
    | none => ∃ response entropy', (e.respond r ids now).run entropy = (.ok response, entropy') := by
  obtain ⟨us, hs, hspoken⟩ := stream_of_not_raised he h
  have hrun := run_of_script he.gathers hs
  rw [hspoken, ← Run.limit?_ofUpdates]
  cases hl : (Run.ofUpdates us).limit? with
  | some l => exact respond_of_limit hrun hl r now entropy hdrawable
  | none =>
    obtain ⟨output, entropy', hitems, -⟩ := Item.ofMessages_conveys (Run.ofUpdates us).messages
      entropy (.inl hdrawable) (Run.limit?_eq_none_iff.mp hl)
    have hgiven := respond_of_items hrun r now hitems
    rw [snapshotTime?_ofUpdates] at hgiven
    cases htools : r.limit? with
    | some l =>
      rw [htools] at hgiven
      exact ⟨entropy', hgiven⟩
    | none =>
      rw [htools] at hgiven
      exact ⟨_, entropy', hgiven⟩

/-- **Streaming and not streaming report the same failure**, for a context in which identifiers can
be drawn and where all that is said before it can be told. One call fails exactly where the other
does, which is where the agent raises, and both fail with one report of a failed agent: with what
the agent raised, if that is such a report, and otherwise with a server error that has its text. A
failure of which no text can be made is none of these, nor is one that changes as it leaves a run.

Elsewhere the ways part. A stream reports what cannot be told as a failure of the agent, wherever it
comes up first. A response that cannot be made fails with the limit alone. -/
theorem failures_agree (r : Request) (supply : Supply) (now now' : Int) (cancellable : Bool)
    (flag : Option Bool) (entropy : Entropy) (h : 0 ≤ supply.ids.layout.entropy) :
    let streamed := (e.stream r supply now cancellable).failure
    let given := ((e.respond { r with stream := flag } supply.ids now').run entropy).1
    (r.limit? = none → (∀ c ∈ e.agent.spoken, c.limit? = none) →
      ((∃ f, streamed = some f) ↔ ∃ f, given = .error f) ∧
      (e.agent.raised? = none → streamed = none ∧ ∃ response, given = .ok response) ∧
      ∀ f, e.agent.raised? = some f → f.leavingRun = f → f.wrapLimit? = none → ∃ p : Report,
        streamed = some (.report p) ∧ given = .error (.report p) ∧ p.kind = .agentInvocation ∧
        (f = .report p ∨
          (∀ q : Report, f = .report q → q.kind ≠ .agentInvocation) ∧
            p.code = .text Report.serverError ∧ p.message = .text f.text)) ∧
      streamed = (e.fault? r).map escalate ∧
      (∀ f, e.agent.raised? = some f → given = .error (escalate f.leavingRun)) ∧
      (e.agent.raised? = none → ∀ l, (e.agent.spoken.findSome? Content.limit?).or r.limit? = some l →
        given = .error (.ofLimit l)) := by
  intro streamed given
  have hstreamed : streamed = (e.fault? r).map escalate :=
    stream_failure he.toStreams r supply now cancellable h
  have hraises : ∀ f, e.agent.raised? = some f → given = .error (escalate f.leavingRun) :=
    fun f hraised => congrArg Prod.fst
      (respond_of_failed (run_of_raised he hraised) { r with stream := flag } supply.ids now' entropy)
  have hresponds (hraised : e.agent.raised? = none) :=
    respond_of_not_raised he hraised { r with stream := flag } now' entropy h
  refine ⟨fun hr hspoken => ?_, hstreamed, hraises, fun hraised l hl => ?_⟩
  · have hboth : streamed = e.agent.raised?.map escalate := by
      rw [hstreamed, fault?_eq_raised? hr hspoken]
    cases hraised : e.agent.raised? with
    | none =>
      have hlimit : (e.agent.spoken.findSome? Content.limit?).or
          (Request.limit? { r with stream := flag }) = none := by
        rw [List.findSome?_eq_none_iff.mpr hspoken]
        exact hr
      have hgiven := hresponds hraised
      rw [hlimit] at hgiven
      obtain ⟨response, entropy', hgiven⟩ := hgiven
      have hgiven : given = .ok response := congrArg Prod.fst hgiven
      rw [hraised, Option.map_none] at hboth
      simp [hboth, hgiven]
    | some f =>
      have hgiven := hraises f hraised
      rw [hraised, Option.map_some] at hboth
      have hiff : (∃ f, streamed = some f) ↔ ∃ f, given = .error f :=
        ⟨fun _ => ⟨_, hgiven⟩, fun _ => ⟨_, hboth⟩⟩
      refine ⟨hiff, fun hnone => (by cases hnone), fun g hg hleft hwrap => ?_⟩
      obtain rfl := Option.some.inj hg
      have hescalated : escalate f = .report f.toAgentInvocation := by
        rw [escalate, if_pos (he.handled f hraised), hwrap]
      rw [hleft, hescalated] at hgiven
      rw [hescalated] at hboth
      exact ⟨_, hboth, hgiven, f.toAgentInvocation_kind, f.toAgentInvocation_cases⟩
  · have hgiven := hresponds hraised
    have hl : (e.agent.spoken.findSome? Content.limit?).or
        (Request.limit? { r with stream := flag }) = some l := hl
    rw [hl] at hgiven
    obtain ⟨entropy', hgiven⟩ := hgiven
    exact congrArg Prod.fst hgiven

end

/-- An agent that says something and then fails. -/
def stumbler : Executor :=
  ⟨⟨"a", "", "Agent",
    .ok (talk.map .update ++ [.fail (.foreign "ValueError" (some (.text "boom")))]), none⟩,
    BuilderKind.extended, .ofFields []⟩

/-- An agent that reports a result too long to be spelled. -/
def boaster : Executor :=
  ⟨⟨"a", "", "Agent",
    .ok [.update ⟨.none,
      [⟨none, .functionResult "call_1" (.int (.ofNat (Nat.pow 10 5000))) none⟩]⟩], none⟩,
    BuilderKind.extended, .ofFields []⟩

def drawable : IdSource := ⟨.standard, "resp_1", "conv_1", "key"⟩

/-- One report for what an agent raises, and two failures for what cannot be told. -/
theorem stumbler_fails :
    stumbler.agent.Scripted ∧ boaster.agent.Scripted ∧ 0 ≤ drawable.layout.entropy ∧
      (∃ p : Report,
        (stumbler.stream (.ofText "Hi") ⟨drawable, 0, .cyclic⟩ 7 true).failure =
          some (.report p) ∧
        ((stumbler.respond { Request.ofText "Hi" with stream := some false } drawable 9).run
          .cyclic).1 = .error (.report p) ∧
        p.code = .text "server_error" ∧ p.message = .text "boom") ∧
      (boaster.stream (.ofText "Hi") ⟨drawable, 0, .cyclic⟩ 7 true).failure =
        some (.report (Failure.ofLimit .digits).toAgentInvocation) ∧
      ((boaster.respond { Request.ofText "Hi" with stream := some false } drawable 9).run
        .cyclic).1 = .error (.ofLimit .digits) := by
  have hstumbler : stumbler.agent.raised? = some (.foreign "ValueError" (some (.text "boom"))) :=
    rfl
  have hboaster : boaster.agent.raised? = none := rfl
  have hlimit : boaster.agent.spoken.findSome? Content.limit? = some .digits := by decide +kernel
  have hscripted : stumbler.agent.Scripted := by
    refine ⟨⟨fun source hs => ?_, fun f hf => ?_⟩, rfl⟩
    · obtain rfl := Except.ok.inj hs
      simp [talk, RunStep.word?]
    · obtain rfl := Option.some.inj (hstumbler.symm.trans hf)
      rfl
  have hscripted' : boaster.agent.Scripted := by
    refine ⟨⟨fun source hs => ?_, fun f hf => ?_⟩, rfl⟩
    · obtain rfl := Except.ok.inj hs
      exact List.forall_mem_singleton.mpr rfl
    · rw [hboaster] at hf
      cases hf
  obtain ⟨hagree, -⟩ := failures_agree hscripted (.ofText "Hi") ⟨drawable, 0, .cyclic⟩ 7 9 true
    (some false) .cyclic (by decide)
  obtain ⟨-, hstreamed, -, hgiven⟩ := failures_agree hscripted' (.ofText "Hi")
    ⟨drawable, 0, .cyclic⟩ 7 9 true (some false) .cyclic (by decide)
  have hspoken : ∀ c ∈ stumbler.agent.spoken, c.limit? = none :=
    List.findSome?_eq_none_iff.mp (by decide +kernel)
  obtain ⟨p, hsame, hsame', -, hraised | ⟨-, hcode, hmessage⟩⟩ :=
    (hagree rfl hspoken).2.2 _ hstumbler rfl rfl
  · cases hraised
  · have hfault : boaster.fault? (.ofText "Hi") = some (.ofLimit .digits) := by decide +kernel
    rw [hfault] at hstreamed
    exact ⟨hscripted, hscripted', by decide, ⟨p, hsame, hsame', hcode, hmessage⟩, hstreamed,
      hgiven hboaster .digits (by rw [hlimit]; rfl)⟩

/-- Identifiers of less than no random characters. -/
def undrawable : IdSource := ⟨⟨-1, 16⟩, "resp_1", "conv_1", "key"⟩

-- Where an identifier cannot be drawn, a stream reports that, and a response fails as it is.
example : ((talker.stream (.ofText "Hi") ⟨undrawable, 0, .cyclic⟩ 7 true).failure =
      some (.report (Failure.misuse .negativeLength).toAgentInvocation)) ∧
    ((talker.respond { Request.ofText "Hi" with stream := some false } undrawable 9).run
      .cyclic).1 = .error (.misuse .negativeLength) :=
  ⟨rfl, rfl⟩

end Executor
end AgentGateway
