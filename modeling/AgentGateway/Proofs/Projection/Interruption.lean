import AgentGateway.Proofs.Projection.Indices

/-! Runs that are interrupted.

Events are handed out as updates come, so what has been told of some updates stands at the
beginning of every longer run (`told_stays`). A run that breaks off has told just that: the
open item is left as it is, nothing is said of the whole response, and items and token counts
are those of the updates so far (`interrupted_leaves_told`).

A request to stop is heard when the next update arrives. From then on a run tells nothing more,
and no verdict (`cancelled_unfinished`). Where no update is to come it is not heard at all
(`late_cancel_unheard`). -/
namespace AgentGateway.Projection

/-- What ends a run on the way, and the failure that it ends with. -/
inductive Breaks (g : Setting) (p : State) : RunStep → Failure → Prop where
  | raised (f : Failure) : Breaks g p (.fail f) f.leavingStream
  | cancelled (u : Update) (cancellable : g.cancellable = true) (asked : p.cancelled = true) :
      Breaks g p (.update u) .cancelled

namespace Attended
variable (g : Setting) (voice : Voice)

/-! ### The part of a run that is over -/

/-- What has been told stays, whatever comes after. -/
theorem told_stays (p : State) (before after : List Act) :
    (run g voice p before).events <+: (run g voice p (before ++ after)).events := by
  rw [run_append]
  cases h : (run g voice p before).failure with
  | some f => exact ⟨[], by rw [Stretch.andThen_of_fails _ h, List.append_nil]⟩
  | none =>
    rw [Stretch.events_andThen _ h]
    exact List.prefix_append ..

theorem acts_append (us vs : List RunStep) :
    acts (us ++ vs) = processing us ++ (vs.map .step ++ [.closing, .verdict]) := by
  simp only [acts, processing, List.map_append, List.cons_append, List.append_assoc]

/-- A run over a source in two parts goes on from the state that the first part leaves. -/
theorem project_resumes (supply : Supply) (reason : Option Value) (cancelled : Bool)
    (us vs : List RunStep) :
    project g voice (State.fresh supply reason cancelled) (us ++ vs) =
      (run g voice (State.fresh supply reason cancelled) (processing us)).andThen fun q =>
        run g voice q (vs.map .step ++ [.closing, .verdict]) := by
  rw [← run_append, ← acts_append]
  rfl

theorem run_of_breaks {p : State} {stop : RunStep} {f : Failure} (h : Breaks g p stop f)
    (rest : List Act) :
    ∃ q : State, q.account = p.account ∧ run g voice p (.step stop :: rest) = .failed q f := by
  have hfailed (q : State) (hact : act g p (.step stop) = .failed q f) :
      run g voice p (.step stop :: rest) = .failed q f := by
    rw [run, hact, Stretch.attended_failed]
    exact Stretch.andThen_of_fails _ rfl
  cases h with
  | raised f => exact ⟨{ p with source := .over }, rfl, hfailed _ rfl⟩
  | cancelled u cancellable asked =>
    exact ⟨p, rfl, hfailed _ (update_of_cancelled u (by rw [cancellable, asked]; rfl))⟩

/-- A run that breaks off after some updates is the run over them, with the failure. -/
theorem project_of_breaks {supply : Supply} {reason : Option Value} {cancelled : Bool}
    {us : List RunStep} {stop : RunStep} {f : Failure} (vs : List RunStep)
    (hends : (run g voice (State.fresh supply reason cancelled) (processing us)).failure = none)
    (h : Breaks g (run g voice (State.fresh supply reason cancelled) (processing us)).state
      stop f) :
    ∃ q : State,
      q.account =
        (run g voice (State.fresh supply reason cancelled) (processing us)).state.account ∧
      project g voice (State.fresh supply reason cancelled) (us ++ stop :: vs) =
        ⟨(run g voice (State.fresh supply reason cancelled) (processing us)).emitted, q,
          some f⟩ := by
  obtain ⟨q, hq, hfailed⟩ := run_of_breaks g voice h (vs.map .step ++ [.closing, .verdict])
  refine ⟨q, hq, ?_⟩
  rw [project_resumes, Stretch.andThen_of_ends _ hends, List.map_cons, List.cons_append, hfailed]
  simp [Stretch.failed]

/-- A run that ends with a failure says nothing of the whole response but that it has begun. -/
theorem envelope_of_fails {supply : Supply} {reason : Option Value} {cancelled : Bool}
    {source : List RunStep}
    (h : (project g voice (State.fresh supply reason cancelled) source).failure ≠ none)
    {kind : Envelope} {r : Response}
    (hmem : .envelope kind r ∈
      (project g voice (State.fresh supply reason cancelled) source).bodies) :
    kind = .created ∨ kind = .inProgress := by
  obtain ⟨hkind, -⟩ | ⟨hends, -⟩ := envelope_cases g voice hmem
  · exact hkind
  · exact absurd hends h

end Attended

/-- **What has been told of some updates** stands at the beginning of every run that they begin.
**A run that breaks off after them** has told just that and ends with the failure: what is open
stays open, nothing is said of the whole response, its output is the items that are done, and
its token counts are those of the updates. -/
theorem interrupted_leaves_told (g : Setting) (voice : Voice) (supply : Supply)
    (reason : Option Value) (cancelled : Bool) (us vs : List RunStep) :
    let start := State.fresh supply reason cancelled
    let processed := Attended.run g voice start (Attended.processing us)
    processed.events <+: (Attended.project g voice start (us ++ vs)).events ∧
    ∀ stop f, processed.failure = none → Breaks g processed.state stop f →
      let run := Attended.project g voice start (us ++ stop :: vs)
      run.events = processed.events ∧ run.failure = some f ∧
      stillOpen run.bodies = run.state.account.openIndex?.toList ∧
      (∀ kind r, .envelope kind r ∈ run.bodies → kind = .created ∨ kind = .inProgress) ∧
      run.state.output = doneItems processed.events ∧
      run.state.usage = Usage.after none ((updatesOf us).flatMap Update.contents) := by
  intro start processed
  constructor
  · show _ <+: (Attended.run g voice start (acts (us ++ vs))).events
    rw [Attended.acts_append]
    exact Attended.told_stays ..
  · intro stop f hprocessed hbreaks run
    obtain ⟨bs, told, a, htale, hbodies, hends⟩ :=
      Attended.processing_told g voice supply reason cancelled us
    obtain ⟨rfl, haccount⟩ := hends hprocessed
    have hcommits := Attended.run_commits g voice start (Attended.processing us)
    obtain ⟨q, hq, hrun⟩ : ∃ q : State, q.account = processed.state.account ∧
        run = ⟨processed.emitted, q, some f⟩ :=
      Attended.project_of_breaks g voice vs hprocessed hbreaks
    have hfails : run.failure ≠ none := by
      rw [hrun]
      exact Option.some_ne_none f
    have hevents : run.events = processed.events := by
      rw [hrun]
      rfl
    have hleft : run.state.account = processed.state.account := by
      rw [hrun]
      exact hq
    have hopen := ((Attended.heralds_tally g supply.ids).progress htale.progress).2
    refine ⟨hevents, by rw [hrun], ?_, ?_, ?_, ?_⟩
    · rw [hleft, haccount, ← hopen, ← hbodies]
      exact congrArg (fun events => stillOpen (events.map Event.body)) hevents
    · exact fun kind r hmem => Attended.envelope_of_fails g voice hfails hmem
    · exact (congrArg Account.output hleft).trans hcommits.final
    · rw [← contents_beats none]
      exact (congrArg Account.usage (hleft.trans haccount)).trans htale.usage_eq

/-- A source that raises while a text is open. -/
theorem raised_leaves_told :
    let us := talkSteps.take 1
    let f := Failure.foreign "RuntimeError" none
    let start := State.fresh talkSupply none false
    let processed := Attended.run talk .silent start (Attended.processing us)
    let run := Attended.project talk .silent start (us ++ .fail f :: talkSteps.drop 1)
    processed.failure = none ∧ run.events = processed.events ∧
      run.failure = some f.leavingStream ∧ stillOpen run.bodies = [0] ∧ run.state.output = [] ∧
      run.state.usage = some ⟨some 3, none, none, []⟩ := by
  intro us f start processed run
  obtain ⟨hevents, hfailure, hopen, -, houtput, husage⟩ :=
    (interrupted_leaves_told talk .silent talkSupply none false us (talkSteps.drop 1)).2
      (.fail f) f.leavingStream rfl (.raised f)
  exact ⟨rfl, hevents, hfailure, hopen, houtput, husage⟩

/-! ### Requests to stop -/

namespace Attended
variable {g : Setting} (voice : Voice)

/-- Once it is asked to stop, a run breaks off at the next step that is not a word. -/
theorem run_of_cancelled (hg : g.cancellable = true) {p : State} (hp : p.cancelled = true)
    {source : List RunStep} (hmore : ∃ s ∈ source, s.word? = none) (rest : List Act) :
    (run g voice p (source.map .step ++ rest)).events = [] ∧
      (run g voice p (source.map .step ++ rest)).failure ≠ none := by
  induction source generalizing p with
  | nil => simp at hmore
  | cons s source ih =>
    have hbreaks {f : Failure} (h : Breaks g p s f) :
        (run g voice p ((s :: source).map .step ++ rest)).events = [] ∧
          (run g voice p ((s :: source).map .step ++ rest)).failure ≠ none := by
      obtain ⟨q, -, hrun⟩ := run_of_breaks g voice h (source.map .step ++ rest)
      rw [List.map_cons, List.cons_append, hrun]
      exact ⟨rfl, Option.some_ne_none f⟩
    have hword {q : State} (hact : step g p s = .quiet q) (hq : q.cancelled = true)
        (hs : s.word? ≠ none) :
        (run g voice p ((s :: source).map .step ++ rest)).events = [] ∧
          (run g voice p ((s :: source).map .step ++ rest)).failure ≠ none := by
      have hrun : run g voice p ((s :: source).map .step ++ rest) =
          run g voice q (source.map .step ++ rest) := by
        rw [List.map_cons, List.cons_append, run, act, hact, Stretch.attended_quiet,
          Stretch.quiet_andThen]
      obtain ⟨t, ht, hnone⟩ := hmore
      obtain rfl | ht := List.mem_cons.mp ht
      · exact absurd hnone hs
      · rw [hrun]
        exact ih hq ⟨t, ht, hnone⟩
    cases s with
    | update u => exact hbreaks (.cancelled u hg hp)
    | fail f => exact hbreaks (.raised f)
    | cancel => exact hword rfl rfl (Option.some_ne_none _)
    | incomplete reason => exact hword rfl hp (Option.some_ne_none _)

end Attended

/-- **A run that is asked to stop** and whose source then brings another update, or raises,
tells nothing more than it had till then, and no verdict. The request may have been made before
the run, by a step of the source, or by the consumer at any event. -/
theorem cancelled_unfinished (g : Setting) (voice : Voice) (supply : Supply)
    (reason : Option Value) (cancelled : Bool) (before after : List RunStep)
    (hg : g.cancellable = true)
    (hasked : cancelled = true ∨ Word.cancel ∈
      Attended.said g voice (State.fresh supply reason cancelled) (Attended.processing before))
    (hmore : ∃ s ∈ after, s.word? = none) :
    let start := State.fresh supply reason cancelled
    let run := Attended.project g voice start (before ++ after)
    run.events = (Attended.run g voice start (Attended.processing before)).events ∧
      run.failure ≠ none ∧
      ∀ r, .envelope .completed r ∉ run.bodies ∧ .envelope .incomplete r ∉ run.bodies := by
  intro start run
  have hresumes : run = _ := Attended.project_resumes g voice supply reason cancelled before after
  have hstops : run.events = (Attended.run g voice start (Attended.processing before)).events ∧
      run.failure ≠ none := by
    have hcancelled := Attended.run_cancelled g voice start (Attended.processing before)
    rw [hresumes]
    generalize Attended.run g voice start (Attended.processing before) = t at *
    cases ht : t.failure with
    | some f =>
      rw [Stretch.andThen_of_fails _ ht, ht]
      exact ⟨rfl, Option.some_ne_none f⟩
    | none =>
      have hq : t.state.cancelled = true := by
        rw [hcancelled, Bool.or_eq_true, List.contains_iff_mem]
        exact hasked
      obtain ⟨hsilent, hfails⟩ := Attended.run_of_cancelled voice hg hq hmore [.closing, .verdict]
      refine ⟨?_, ?_⟩
      · rw [Stretch.events_andThen _ ht, hsilent, List.append_nil]
      · rw [Stretch.andThen_of_ends _ ht]
        exact hfails
  refine ⟨hstops.1, hstops.2, fun r => ⟨fun hmem => ?_, fun hmem => ?_⟩⟩
  · obtain h | h := Attended.envelope_of_fails g voice hstops.2 hmem <;> cases h
  · obtain h | h := Attended.envelope_of_fails g voice hstops.2 hmem <;> cases h

/-- A consumer asks to stop at the first piece of a text. -/
theorem stopped_unfinished :
    let voice := Voice.atTexts .cancel
    let start := State.fresh talkSupply none false
    let run := Attended.project talk voice start (talkSteps.take 1 ++ talkSteps.drop 1)
    run.events =
        (Attended.run talk voice start (Attended.processing (talkSteps.take 1))).events ∧
      run.failure ≠ none ∧
      ∀ r, .envelope .completed r ∉ run.bodies ∧ .envelope .incomplete r ∉ run.bodies :=
  cancelled_unfinished talk (.atTexts .cancel) talkSupply none false (talkSteps.take 1)
    (talkSteps.drop 1) rfl (.inr (by decide +kernel)) ⟨_, List.mem_cons_self .., rfl⟩

/-- A request to stop does not keep a verdict back where the source brings no update after it:
here it is made before a run over a source that has none. -/
theorem late_cancel_completes :
    ¬∀ (g : Setting) (voice : Voice) (supply : Supply) (reason : Option Value) (cancelled : Bool)
      (before after : List RunStep), g.cancellable = true →
      (cancelled = true ∨ Word.cancel ∈
        Attended.said g voice (State.fresh supply reason cancelled)
          (Attended.processing before)) →
      ∀ r, .envelope .completed r ∉
        (Attended.project g voice (State.fresh supply reason cancelled) (before ++ after)).bodies := by
  intro h
  have hcompleted :
      (Attended.project talk .silent (State.fresh talkSupply none true) []).bodies[2]? =
        some (.envelope .completed (Account.empty.snapshot talk talkSupply.ids .completed)) := rfl
  exact h talk .silent talkSupply none true [] [] rfl (.inl rfl) _ (List.mem_of_getElem? hcompleted)

/-! ### Requests that come too late -/

theorem State.hear_cancel (p : State) : p.hear [.cancel] = { p with cancelled := true } := by
  simp [hear, Word.latest]

theorem State.hear_cancel_comm (p : State) (ws : List Word) :
    (p.hear [.cancel]).hear ws = (p.hear ws).hear [.cancel] := by
  rw [hear_cancel, hear_cancel]
  simp [hear]

namespace Stretch

@[simp] theorem events_hear (s : Stretch) (ws : List Word) : (s.hear ws).events = s.events := by
  simp [events, hear, Function.comp_def]

theorem attended_hear_cancel (s : Stretch) (voice : Voice) :
    (s.hear [.cancel]).attended voice = (s.attended voice).hear [.cancel] := by
  have hemitted : ((s.hear [.cancel]).attended voice).emitted =
      ((s.attended voice).hear [.cancel]).emitted := by
    refine List.ext_getElem? fun n => ?_
    rw [getElem?_attended, events_hear]
    simp only [hear, List.getElem?_map, getElem?_attended, Option.map_map, Function.comp_def,
      State.hear_cancel_comm]
  have hstate : ((s.hear [.cancel]).attended voice).state =
      ((s.attended voice).hear [.cancel]).state := by
    show (s.state.hear [.cancel]).hear ((s.hear [.cancel]).events.flatMap voice) = _
    rw [events_hear, State.hear_cancel_comm]
    rfl
  exact congr (congr (congrArg mk hemitted) hstate) rfl

end Stretch

theorem terminal_hear_cancel (g : Setting) (p : State) :
    terminal g (p.hear [.cancel]) = (terminal g p).hear [.cancel] := by
  have hreason : (p.hear [.cancel]).reason = p.reason := rfl
  unfold terminal
  rw [hreason]
  cases p.reason.map fun v => Response.readIncomplete (.object [("reason", v)]) with
  | none => rfl
  | some details => cases details <;> rfl

/-- Neither closing nor the verdict takes notice of a request to stop. -/
theorem Attended.ending_hear_cancel (g : Setting) (voice : Voice) (p : State) :
    run g voice (p.hear [.cancel]) [.closing, .verdict] =
      (run g voice p [.closing, .verdict]).hear [.cancel] := by
  have hclosing (q : State) :
      act g (q.hear [.cancel]) .closing = (act g q .closing).hear [.cancel] :=
    close_hear { q with phase := .draining, source := .over } [.cancel]
  have hverdict (q : State) :
      act g (q.hear [.cancel]) .verdict = (act g q .verdict).hear [.cancel] := by
    simp only [act, terminal_hear_cancel]
    exact Stretch.hear_andThen fun r => rfl
  rw [run, run, hclosing, Stretch.attended_hear_cancel]
  refine Stretch.hear_andThen fun q => ?_
  rw [run_single, run_single, hverdict, Stretch.attended_hear_cancel]

/-- A request to stop that no update follows changes nothing that is told. -/
theorem late_cancel_unheard (g : Setting) (voice : Voice) (supply : Supply)
    (reason : Option Value) (cancelled : Bool) (source : List RunStep) :
    let start := State.fresh supply reason cancelled
    let asked := Attended.project g voice start (source ++ [.cancel])
    let run := Attended.project g voice start source
    asked.events = run.events ∧ asked.failure = run.failure := by
  intro start asked run
  have hend (q : State) :
      Attended.run g voice q ([RunStep.cancel].map .step ++ [.closing, .verdict]) =
        (Attended.run g voice q [.closing, .verdict]).hear [.cancel] := by
    rw [← Attended.ending_hear_cancel, State.hear_cancel]
    show ((Stretch.quiet { q with cancelled := true }).attended voice).andThen _ = _
    rw [Stretch.attended_quiet, Stretch.quiet_andThen]
    rfl
  have hasked : asked = _ :=
    Attended.project_resumes g voice supply reason cancelled source [.cancel]
  have hrun := Attended.project_resumes g voice supply reason cancelled source []
  rw [List.append_nil] at hrun
  simp only [hend] at hasked
  rw [hasked, show run = _ from hrun]
  generalize Attended.run g voice _ (Attended.processing source) = t
  cases ht : t.failure with
  | some f =>
    rw [Stretch.andThen_of_fails _ ht, Stretch.andThen_of_fails _ ht]
    exact ⟨rfl, rfl⟩
  | none =>
    refine ⟨?_, ?_⟩
    · rw [Stretch.events_andThen _ ht, Stretch.events_andThen _ ht, Stretch.events_hear]
      rfl
    · rw [Stretch.andThen_of_ends _ ht, Stretch.andThen_of_ends _ ht]
      rfl

end AgentGateway.Projection
