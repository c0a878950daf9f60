import AgentGateway.Proofs.Projection.Indices
import AgentGateway.Proofs.Projection.Phases

/-! The envelope of a run.

`envelope_protocol`: a run that comes to the end of its source says that the response is
created and in progress, then nothing of the whole response until one last event. That event
says that it is complete, or cut short for the reason that was given last. All snapshots of
one run are of the same response (`Attended.snapshot_of_mem`), and the phases only move
forward. -/
namespace AgentGateway.Projection

/-- A snapshot of the response of a setting, however far it has come. -/
def SnapshotOf (g : Setting) (ids : IdSource) (r : Response) : Prop :=
  ∃ status output usage incompleteDetails,
    r = { Response.build g.request ids status output usage g.createdAt with incompleteDetails }

theorem Verdict.snapshotOf {g : Setting} {ids : IdSource} {a : Account} {reason : Option Value}
    {kind : Envelope} {last : Response} (h : Verdict g ids a reason kind last) :
    SnapshotOf g ids last := by
  cases h with
  | completed => exact ⟨.completed, a.output, a.usage, none, rfl⟩
  | @incomplete _ details _ => exact ⟨.incomplete, a.output, a.usage, some details, rfl⟩

/-- A last event that says of a response that it is complete, or for which reason it is not. -/
def Concludes (cut : Option String) (kind : Envelope) (last : Response) : Prop :=
  match cut with
  | none => kind = .completed ∧ last.status = .completed ∧ last.incompleteDetails = none
  | some s => kind = .incomplete ∧ last.status = .incomplete ∧
      last.incompleteDetails = some ⟨some s, []⟩

/-- What a verdict says, where the answer is not cut short or for a reason that is a text. -/
theorem Verdict.concludes {g : Setting} {ids : IdSource} {a : Account} {cut : Option String}
    {kind : Envelope} {last : Response} (h : Verdict g ids a (cut.map .text) kind last) :
    last.usage = .ofUsage a.usage ∧
      Concludes cut kind last := by
  cases cut with
  | none =>
    cases h
    exact ⟨rfl, rfl, rfl, rfl⟩
  | some s =>
    cases h with
    | incomplete hdetails =>
      rw [readIncomplete_text] at hdetails
      cases hdetails
      exact ⟨rfl, rfl, rfl, rfl⟩

namespace Attended
variable (g : Setting) (voice : Voice)

/-- All snapshots of a run are of one response. -/
theorem snapshot_of_mem (supply : Supply) (reason : Option Value) (cancelled : Bool)
    (source : List RunStep) {kind : Envelope} {r : Response}
    (hmem : .envelope kind r ∈
      (project g voice (State.fresh supply reason cancelled) source).bodies) :
    SnapshotOf g supply.ids r := by
  obtain ⟨-, rfl⟩ | ⟨-, -, a, cut, hverdict⟩ := envelope_cases g voice hmem
  · exact ⟨.inProgress, [], none, none, rfl⟩
  · exact hverdict.snapshotOf

/-- A run that comes to the end of its source ends well, unless its answer is cut short for a
reason that cannot be told. -/
theorem project_ends_of_processed {supply : Supply} {reason : Option Value} {cancelled : Bool}
    {source : List RunStep} {cut : Option String}
    (h : (run g voice (State.fresh supply reason cancelled) (processing source)).failure = none)
    (hcut : Word.latest reason (said g voice (State.fresh supply reason cancelled)
      (unjudged source)) = cut.map .text) :
    (project g voice (State.fresh supply reason cancelled) source).failure = none := by
  have hreason := run_reason g voice (State.fresh supply reason cancelled) (unjudged source)
  have hunjudged :
      (run g voice (State.fresh supply reason cancelled) (unjudged source)).failure = none := by
    rw [unjudged, run_append]
    refine Stretch.failure_andThen_eq_none.mpr ⟨h, ?_⟩
    rw [run_single]
    exact (close_tells _).1
  rw [project_fresh]
  refine Stretch.failure_andThen_eq_none.mpr ⟨hunjudged, ?_⟩
  rw [run_single]
  refine Stretch.failure_andThen_eq_none.mpr ⟨terminal_ends g (hreason.trans hcut), rfl⟩

end Attended

/-- **A run that comes to the end of its source** begins with two snapshots of an empty response
in progress. It says nothing more of the whole response until its last event: that it is
complete, or, if a word has cut it short, incomplete for the reason given last. The last
snapshot has all finished items and the token counts of all contents. The snapshots of any run
differ only in status, output, token counts and what it says of being incomplete.

**The phases of any run** only move forward, through all the states that it passes. It is over
only once its verdict has been handed out, and it cannot be used again after it has begun. -/
theorem envelope_protocol (g : Setting) (voice : Voice) (supply : Supply)
    (reason : Option Value) (cancelled : Bool) (source : List RunStep) :
    let start := State.fresh supply reason cancelled
    let run := Attended.project g voice start source
    let words := Attended.said g voice start (Attended.unjudged source)
    let trail := Attended.trail g voice start (acts source)
    (∀ cut : Option String,
      (Attended.run g voice start (Attended.processing source)).failure = none →
      Word.latest reason words = cut.map .text →
      run.failure = none ∧ ∃ first told kind last,
        run.bodies =
          [.envelope .created first, .envelope .inProgress first] ++ told ++
            [.envelope kind last] ∧
        (first.status = .inProgress ∧ first.output = [] ∧ first.usage = .zero) ∧
        (∀ kind' r, .envelope kind' r ∉ told) ∧
        Concludes cut kind last ∧
        last.output = doneItems run.events ∧
        last.usage = .ofUsage (Usage.after none ((updatesOf source).flatMap Update.contents))) ∧
    (∀ kind r kind' r', .envelope kind r ∈ run.bodies → .envelope kind' r' ∈ run.bodies →
      r' = { r with
        status := r'.status
        output := r'.output
        usage := r'.usage
        incompleteDetails := r'.incompleteDetails }) ∧
    Onward (start :: trail) ∧ (run.emitted.map Emission.state).Sublist trail ∧
    (∀ e ∈ run.emitted, e.state.phase ≠ .done) ∧ (run.state.phase = .done ↔ run.failure = none) ∧
    ∀ p ∈ trail, ∀ (voice' : Voice) (source' : List RunStep),
      Attended.project g voice' p source' = .failed p (.report (.generatorState reused)) := by
  intro start run words trail
  refine ⟨fun cut hprocessed hcut => ?_, fun kind r kind' r' hr hr' => ?_, ?_, ?_, ?_⟩
  · have hends : run.failure = none := Attended.project_ends_of_processed g voice hprocessed hcut
    obtain ⟨told, a, kind, last, htale, hverdict, hbodies, haccount⟩ :=
      Attended.project_tale g voice hends
    rw [hcut] at hverdict
    obtain ⟨husage, hsays⟩ := hverdict.concludes
    refine ⟨hends, _, told ++ a.closing, kind, last, hbodies, ⟨rfl, rfl, rfl⟩, ?_, hsays, ?_, ?_⟩
    · exact fun kind' r => htale.progress.closing.envelope_not_mem kind' r
    · calc last.output = a.closed.output := hverdict.output_eq
        _ = run.state.output := congrArg Account.output haccount.symm
        _ = doneItems run.events := (Attended.project_commits g voice start source).final
    · rw [husage, ← contents_beats none]
      exact congrArg UsageReport.ofUsage htale.usage_eq
  · obtain ⟨_, _, _, _, rfl⟩ := Attended.snapshot_of_mem g voice supply reason cancelled source hr
    obtain ⟨_, _, _, _, rfl⟩ := Attended.snapshot_of_mem g voice supply reason cancelled source hr'
    rfl
  · exact Attended.project_onward g voice supply reason cancelled source
  · exact Attended.states_sublist_trail g voice start (acts source)
  · obtain ⟨hundone, hdone⟩ := Attended.project_done g voice supply reason cancelled source
    exact ⟨hundone, hdone, Attended.project_of_begun g voice supply reason cancelled source⟩

theorem overheard_protocol :
    overheard.failure = none ∧ ∃ first told kind last,
      overheard.bodies =
        [.envelope .created first, .envelope .inProgress first] ++ told ++
          [.envelope kind last] ∧
      (first.status = .inProgress ∧ first.output = [] ∧ first.usage = .zero) ∧
      (∀ kind' r, .envelope kind' r ∉ told) ∧
      Concludes (some "max_output_tokens") kind last ∧
      last.output = doneItems overheard.events ∧
      last.usage = .ofUsage (Usage.after none ((updatesOf talkSteps).flatMap Update.contents)) :=
  (envelope_protocol talk _ talkSupply none false talkSteps).1 (some "max_output_tokens") rfl rfl

end AgentGateway.Projection
