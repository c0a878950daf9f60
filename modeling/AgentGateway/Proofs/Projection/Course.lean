import AgentGateway.Proofs.Projection.Attended

/-! The course of a whole projection.

`Attended.project_told`: every run tells that it is created and in progress, then the tale of
some beats, and only if it ends well one verdict. `Attended.project_tale`: the beats are then
those of its updates and a last boundary, and the verdict is on all of it. `project_tale` is
the case of a consumer who says nothing.

The other way round, where items can be named a run fails with the first failure of its source,
or of a content that cannot be spelled (`project_failure`), and updates make a run that ends well
exactly when their items can be named and spelled, or there are none (`project_ends_iff`). -/
namespace AgentGateway

/-- The failure that a step brings into a run: its own, or that of its first content that has to be
told and cannot be spelled. -/
def RunStep.failure? (kinds : List BuilderKind) : RunStep → Option Failure
  | .update u => (u.contents.findSome? (BuilderKind.limit? kinds)).map .ofLimit
  | .fail f => some f.leavingStream
  | _ => none

namespace Projection

namespace Attended
variable (g : Setting) (voice : Voice)

/-! ### What attended acts tell -/

/-- Steps tell the beats of their updates, or as many as they come to. -/
theorem steps_told {p : State} (source : List RunStep) (hp : p.account.Resting) :
    Stretch.Told g.kinds p.supply.ids.layout p.account (beats p.previous (updatesOf source))
      (run g voice p (source.map .step)) := by
  induction source generalizing p with
  | nil => exact .quiet p
  | cons s rest ih =>
    have hhead : Stretch.Told _ _ _ _ ((step g p s).attended voice) := (step_told g s hp).attended
    rw [beats_updatesOf_cons]
    refine hhead.andThen fun hends => ?_
    rw [← (step_draws g p s).ids, ← step_previous hends]
    exact ih ((hhead.tale hends).resting hp)

/-- What is told last, once the source is over. -/
theorem closing_told {p : State} (source : List RunStep) (hp : p.account.Resting) :
    Stretch.Told g.kinds p.supply.ids.layout p.account
      (beats p.previous (updatesOf source) ++ [.boundary])
      (run g voice p (source.map .step ++ [.closing])) := by
  rw [run_append]
  refine (steps_told g voice source hp).andThen fun _ => ?_
  obtain ⟨hends, hbodies, haccount⟩ := close_tells
    { (run g voice p (source.map .step)).state with phase := .draining, source := .over }
  have hclosed : Stretch.Told g.kinds p.supply.ids.layout
      (run g voice p (source.map .step)).state.account [.boundary]
      (act g (run g voice p (source.map .step)).state .closing) :=
    .of_tale (.single (.boundary _)) hbodies haccount
  rw [← List.append_nil [Beat.boundary]]
  exact hclosed.attended.andThen fun _ => .quiet _

/-- The two events that stand before all others. -/
def heralds (ids : IdSource) : List Event.Body :=
  [.envelope .created (Account.empty.snapshot g ids .inProgress),
    .envelope .inProgress (Account.empty.snapshot g ids .inProgress)]

/-- A run opens, whatever comes after. -/
theorem run_opening (supply : Supply) (reason : Option Value) (cancelled : Bool)
    (rest : List Act) :
    ∃ p : State, p.account = .empty ∧ p.previous = none ∧ p.supply.ids = supply.ids ∧
      (run g voice (State.fresh supply reason cancelled) (.opening :: rest)).bodies =
        heralds g supply.ids ++ (run g voice p rest).bodies ∧
      (run g voice (State.fresh supply reason cancelled) (.opening :: rest)).failure =
        (run g voice p rest).failure ∧
      (run g voice (State.fresh supply reason cancelled) (.opening :: rest)).state =
        (run g voice p rest).state := by
  obtain ⟨hends, hbodies, -⟩ := opening_tells g (State.fresh supply reason cancelled)
  have hopens : ((act g (State.fresh supply reason cancelled) .opening).attended voice).failure =
    none := hends
  refine ⟨((act g (State.fresh supply reason cancelled) .opening).attended voice).state, rfl, rfl,
    rfl, ?_, ?_, ?_⟩
  · rw [run, Stretch.bodies_andThen _ hopens, Stretch.bodies_attended]
    exact congrArg (· ++ _) hbodies
  · rw [run, Stretch.andThen_of_ends _ hopens]
  · rw [run, Stretch.andThen_of_ends _ hopens]

theorem opened_told (supply : Supply) (reason : Option Value) (cancelled : Bool)
    {rest : List Act} {bs : List Beat}
    (hrest : ∀ p : State, p.account.Resting → p.previous = none →
      Stretch.Told g.kinds p.supply.ids.layout p.account bs (run g voice p rest)) :
    let t := run g voice (State.fresh supply reason cancelled) (.opening :: rest)
    ∃ bs' told a, Tale g.kinds supply.ids.layout .empty bs' told a ∧
      t.bodies = heralds g supply.ids ++ told ∧
      (t.failure = none → bs' = bs ∧ t.state.account = a) := by
  intro t
  obtain ⟨p, haccount, hprevious, hids, hbodies, hfailure, hstate⟩ :=
    run_opening g voice supply reason cancelled rest
  have hresting : p.account.Resting := haccount ▸ fresh_resting supply reason cancelled
  obtain ⟨bs', a, htale, hends⟩ := hrest p hresting hprevious
  rw [haccount, hids] at htale
  refine ⟨bs', _, a, htale, hbodies, fun ht => ?_⟩
  obtain ⟨hbeats, ha⟩ := hends (hfailure.symm.trans ht)
  exact ⟨hbeats, (congrArg State.account hstate).trans ha⟩

/-! ### A whole run -/

/-- The acts of a projection up to the point where its source has no more updates. -/
def processing (source : List RunStep) : List Act := .opening :: source.map .step

/-- The acts of a projection up to its verdict. -/
def unjudged (source : List RunStep) : List Act := processing source ++ [.closing]

theorem project_fresh (supply : Supply) (reason : Option Value) (cancelled : Bool)
    (source : List RunStep) :
    project g voice (State.fresh supply reason cancelled) source =
      (run g voice (State.fresh supply reason cancelled) (unjudged source)).andThen fun q =>
        run g voice q [.verdict] := by
  rw [← run_append, unjudged, List.append_assoc]
  rfl

/-- While its source is asked for updates, a run tells that it is created and in progress, and
the tale of the updates' beats, or of as many as it comes to. -/
theorem processing_told (supply : Supply) (reason : Option Value) (cancelled : Bool)
    (source : List RunStep) :
    let t := run g voice (State.fresh supply reason cancelled) (processing source)
    ∃ bs told a, Tale g.kinds supply.ids.layout .empty bs told a ∧
      t.bodies = heralds g supply.ids ++ told ∧
      (t.failure = none → bs = beats none (updatesOf source) ∧ t.state.account = a) :=
  opened_told g voice supply reason cancelled fun p hresting hprevious =>
    hprevious ▸ steps_told g voice (p := p) source hresting

/-- Closing follows the updates with a last boundary. -/
theorem unjudged_told (supply : Supply) (reason : Option Value) (cancelled : Bool)
    (source : List RunStep) :
    let t := run g voice (State.fresh supply reason cancelled) (unjudged source)
    ∃ bs told a, Tale g.kinds supply.ids.layout .empty bs told a ∧
      t.bodies = heralds g supply.ids ++ told ∧
      (t.failure = none →
        bs = beats none (updatesOf source) ++ [.boundary] ∧ t.state.account = a) :=
  opened_told g voice supply reason cancelled fun p hresting hprevious =>
    hprevious ▸ closing_told g voice (p := p) source hresting

theorem run_single (p : State) (a : Act) : run g voice p [a] = (act g p a).attended voice :=
  Stretch.andThen_quiet _

/-- A verdict is made well and told, or not at all. -/
theorem verdict_told (q : State) :
    let t := run g voice q [.verdict]
    t.failure ≠ none ∧ t.bodies = [] ∨
      t.failure = none ∧ t.state.account = q.account ∧ ∃ kind r, t.bodies = [.envelope kind r] ∧
        Verdict g q.supply.ids q.account q.reason kind r := by
  intro t
  have ht : t = ((terminal g q).andThen fun q => .quiet { q with phase := .done }).attended voice :=
    run_single g voice q .verdict
  have hbodies : t.bodies = (terminal g q).bodies := by
    rw [ht, Stretch.bodies_attended, Stretch.bodies, Stretch.events, Stretch.emitted_andThen_quiet]
    rfl
  cases hterminal : (terminal g q).failure with
  | some f =>
    refine .inl ⟨?_, hbodies.trans (terminal_fails (by simp [hterminal]))⟩
    rw [ht, Stretch.andThen_of_fails _ hterminal]
    exact hterminal ▸ Option.some_ne_none f
  | none =>
    obtain ⟨kind, r, hverdict, htold, haccount⟩ := terminal_tells hterminal
    rw [Stretch.andThen_of_ends _ hterminal] at ht
    refine .inr ⟨by rw [ht]; rfl, ?_, kind, r, hbodies.trans htold, hverdict⟩
    rw [ht]
    exact haccount

/-- **Every run** tells that it is created and in progress, and the tale of some beats. Only if
it ends well it tells a verdict, and then the beats are all those of its source. -/
theorem project_told (supply : Supply) (reason : Option Value) (cancelled : Bool)
    (source : List RunStep) :
    let whole := project g voice (State.fresh supply reason cancelled) source
    let words := said g voice (State.fresh supply reason cancelled) (unjudged source)
    ∃ bs told a last,
      Tale g.kinds supply.ids.layout .empty bs told a ∧
      whole.bodies = heralds g supply.ids ++ told ++ last ∧
      (whole.failure ≠ none ∧ last = [] ∨
        whole.failure = none ∧ bs = beats none (updatesOf source) ++ [.boundary] ∧
          whole.state.account = a ∧ ∃ kind r, last = [.envelope kind r] ∧
            Verdict g supply.ids a (Word.latest reason words) kind r) := by
  intro whole words
  obtain ⟨bs, told, a, htale, hbodies, hends⟩ :=
    unjudged_told g voice supply reason cancelled source
  have hids := (run_draws g voice (State.fresh supply reason cancelled) (unjudged source)).ids
  have hreason : _ = Word.latest reason words :=
    run_reason g voice (State.fresh supply reason cancelled) (unjudged source)
  have hwhole : whole = _ := project_fresh g voice supply reason cancelled source
  generalize run g voice (State.fresh supply reason cancelled) (unjudged source) = t at *
  cases ht : t.failure with
  | some f =>
    rw [Stretch.andThen_of_fails _ ht] at hwhole
    refine ⟨bs, told, a, [], htale, ?_, .inl ⟨?_, rfl⟩⟩
    · rw [hwhole, hbodies, List.append_nil]
    · rw [hwhole, ht]
      exact Option.some_ne_none f
  | none =>
    obtain ⟨hbeats, haccount⟩ := hends ht
    rw [Stretch.andThen_of_ends _ ht] at hwhole
    have htold : whole.bodies = t.bodies ++ (run g voice t.state [.verdict]).bodies := by
      rw [hwhole]
      simp only [Stretch.bodies, Stretch.events, List.map_append]
    refine ⟨bs, told, a, (run g voice t.state [.verdict]).bodies, htale, ?_, ?_⟩
    · rw [htold, hbodies]
    · obtain ⟨hfails, hsilent⟩ | ⟨hends, hkept, hverdict⟩ := verdict_told g voice t.state
      · exact .inl ⟨by rwa [hwhole], hsilent⟩
      · rw [hids, haccount, hreason] at hverdict
        rw [haccount] at hkept
        exact .inr ⟨by rwa [hwhole], hbeats, by rwa [hwhole], hverdict⟩

/-- **A run that ends well** tells that it is created and in progress, the tale of its
updates, what closing tells, and one verdict on all of it. -/
theorem project_tale {supply : Supply} {reason : Option Value} {cancelled : Bool}
    {source : List RunStep}
    (h : (project g voice (State.fresh supply reason cancelled) source).failure = none) :
    let whole := project g voice (State.fresh supply reason cancelled) source
    let words := said g voice (State.fresh supply reason cancelled) (unjudged source)
    ∃ told a kind last,
      Tale g.kinds supply.ids.layout .empty (beats none (updatesOf source)) told a ∧
      Verdict g supply.ids a.closed (Word.latest reason words) kind last ∧
      whole.bodies = heralds g supply.ids ++ (told ++ a.closing) ++ [.envelope kind last] ∧
      whole.state.account = a.closed := by
  intro whole words
  obtain ⟨bs, told, a, last, htale, hbodies, ⟨hfails, -⟩ |
    ⟨-, rfl, haccount, kind, r, rfl, hverdict⟩⟩ :=
    project_told g voice supply reason cancelled source
  · exact absurd h hfails
  · obtain ⟨a', first, rest, hsteps, hclosing, rfl⟩ := htale.split
    obtain ⟨rfl, rfl⟩ := hclosing.boundary
    exact ⟨first, a', kind, r, hsteps, hverdict, hbodies, haccount⟩

end Attended

/-! ### Where nobody speaks -/

/-- The word that cuts an answer short, after some more steps. -/
def reasonAfter (reason : Option Value) : List RunStep → Option Value
  | [] => reason
  | .incomplete r :: rest => reasonAfter r rest
  | _ :: rest => reasonAfter reason rest

theorem reasonAfter_unheard (reason : Option Value) {source : List RunStep}
    (hwords : ∀ s ∈ source, s.word? = none) : reasonAfter reason source = reason := by
  induction source with
  | nil => rfl
  | cons s rest ih =>
    obtain ⟨hs, hrest⟩ := List.forall_mem_cons.mp hwords
    cases s with
    | update | fail => exact ih hrest
    | cancel | incomplete => cases hs

theorem reasonAfter_updates (reason : Option Value) (us : List Update) :
    reasonAfter reason (us.map .update) = reason :=
  reasonAfter_unheard reason (by simp [RunStep.word?])

theorem updatesOf_updates (us : List Update) : updatesOf (us.map .update) = us := by
  rw [updatesOf, List.filterMap_map]
  exact List.filterMap_some

theorem latest_steps (reason : Option Value) (source : List RunStep) :
    Word.latest reason ((source.map .step).filterMap Act.word?) = reasonAfter reason source := by
  rw [List.filterMap_map]
  induction source generalizing reason with
  | nil => rfl
  | cons s rest ih => cases s <;> exact ih _

theorem steps_reason {g : Setting} {p : State} {source : List RunStep}
    (h : (steps g p source).failure = none) :
    (steps g p source).state.reason = reasonAfter p.reason source := by
  rw [← Attended.run_silent_steps] at h ⊢
  rw [Attended.run_reason, Attended.said_silent g h, latest_steps]

/-- **A run that ends well** tells that it is created and in progress, the tale of its
updates, what closing tells, and one verdict on all of it. -/
theorem project_tale {g : Setting} {supply : Supply} {reason : Option Value} {cancelled : Bool}
    {source : List RunStep}
    (h : (project g (State.fresh supply reason cancelled) source).failure = none) :
    ∃ told a kind last,
      Tale g.kinds supply.ids.layout .empty (beats none (updatesOf source)) told a ∧
      Verdict g supply.ids a.closed (reasonAfter reason source) kind last ∧
      (project g (State.fresh supply reason cancelled) source).bodies =
        [.envelope .created (Account.empty.snapshot g supply.ids .inProgress),
          .envelope .inProgress (Account.empty.snapshot g supply.ids .inProgress)] ++
          (told ++ a.closing) ++ [.envelope kind last] ∧
      (project g (State.fresh supply reason cancelled) source).state.account = a.closed := by
  rw [← Attended.project_silent] at h ⊢
  have hunjudged := h
  rw [Attended.project_fresh] at hunjudged
  have hsaid := Attended.said_silent g (Stretch.failure_andThen_eq_none.mp hunjudged).1
  obtain ⟨told, a, kind, last, htale, hverdict, hbodies, haccount⟩ :=
    Attended.project_tale g .silent h
  refine ⟨told, a, kind, last, htale, ?_, hbodies, haccount⟩
  rw [hsaid] at hverdict
  have hwords : (Attended.unjudged source).filterMap Act.word? =
      (source.map .step).filterMap Act.word? := by
    rw [Attended.unjudged, List.filterMap_append]
    exact List.append_nil _
  rwa [hwords, latest_steps] at hverdict

/-! ### Failing -/

/-- Where identifiers can be drawn, or none are needed, steps that bring no word fail with the first
failure among them. -/
theorem steps_failure (g : Setting) {p : State} {source : List RunStep} (hp : p.account.Resting)
    (hheard : p.cancelled = false) (hwords : ∀ s ∈ source, s.word? = none)
    (h : 0 ≤ p.supply.ids.layout.entropy ∨
      ∀ u ∈ updatesOf source, ∀ c ∈ u.contents, ∀ k ∈ g.kinds, k.supports c = false) :
    (steps g p source).failure = source.findSome? (RunStep.failure? g.kinds) := by
  induction source generalizing p with
  | nil => rfl
  | cons s rest ih =>
    obtain ⟨hs, hrest⟩ := List.forall_mem_cons.mp hwords
    cases s with
    | update u =>
      have hhead : (update g p u).failure = (RunStep.update u).failure? g.kinds :=
        update_failure g u hp (by rw [hheard, Bool.and_false])
          (h.imp_right fun hu => hu u (List.mem_cons_self ..))
      rw [List.findSome?_cons, ← hhead]
      show ((update g p u).andThen fun q => steps g q rest).failure = _
      cases hends : (update g p u).failure with
      | some f =>
        rw [Stretch.andThen_of_fails _ hends, hends]
      | none =>
        rw [Stretch.andThen_of_ends _ hends]
        refine ih (((update_told g u hp).tale hends).resting hp)
          ((update_kept g p u).2.1.trans hheard) hrest ?_
        rw [(update_draws g p u).ids]
        exact h.imp_right fun hu u' hu' => hu u' (List.mem_cons_of_mem u hu')
    | fail f => rfl
    | cancel | incomplete => cases hs

theorem ending_ends (g : Setting) {p : State} (h : p.reason = none) :
    (ending g p).failure = none := by
  unfold ending
  refine Stretch.failure_andThen_eq_none.mpr ⟨(close_tells _).1, ?_⟩
  refine Stretch.failure_andThen_eq_none.mpr ⟨?_, rfl⟩
  have hreason := (close_telling { p with phase := .draining, source := .over }).reason.trans h
  exact terminal_ends g (show _ = (none : Option String).map .text from hreason)

theorem project_fresh (g : Setting) (supply : Supply) (reason : Option Value) (cancelled : Bool)
    (source : List RunStep) :
    project g (State.fresh supply reason cancelled) source =
      (opening g (State.fresh supply reason cancelled)).andThen fun p =>
        (steps g p source).andThen (ending g) := by
  show (processed g _ source).andThen (ending g) = _
  rw [processed, Stretch.andThen_assoc]

/-- Where identifiers can be drawn, or none are needed, a run that nobody speaks in fails with the
first failure of its source. -/
theorem project_failure (g : Setting) (supply : Supply) {source : List RunStep}
    (hwords : ∀ s ∈ source, s.word? = none)
    (h : 0 ≤ supply.ids.layout.entropy ∨
      ∀ u ∈ updatesOf source, ∀ c ∈ u.contents, ∀ k ∈ g.kinds, k.supports c = false) :
    (project g (State.fresh supply none false) source).failure =
      source.findSome? (RunStep.failure? g.kinds) := by
  obtain ⟨hopening, -, haccount, -, hreason, hcancelled⟩ :=
    opening_tells g (State.fresh supply none false)
  have hids := (opening_draws g (State.fresh supply none false)).ids
  rw [project_fresh, Stretch.andThen_of_ends _ hopening]
  generalize (opening g (State.fresh supply none false)).state = p at *
  have hsteps := steps_failure g (haccount ▸ fresh_resting supply none false) hcancelled hwords
    (by rwa [hids])
  show ((steps g p source).andThen (ending g)).failure = _
  cases hends : (steps g p source).failure with
  | some f => rw [Stretch.andThen_of_fails _ hends, hsteps]
  | none =>
    rw [Stretch.andThen_of_ends _ hends, ← hsteps, hends]
    refine ending_ends g ?_
    rw [steps_reason hends, hreason]
    exact reasonAfter_unheard none hwords

theorem findSome?_updates (kinds : List BuilderKind) (us : List Update) :
    (us.map RunStep.update).findSome? (RunStep.failure? kinds) =
      ((us.flatMap Update.contents).findSome? (BuilderKind.limit? kinds)).map .ofLimit := by
  induction us with
  | nil => rfl
  | cons u rest ih =>
    rw [List.map_cons, List.findSome?_cons, List.flatMap_cons, List.findSome?_append, ih]
    cases hu : u.contents.findSome? (BuilderKind.limit? kinds) <;> simp [RunStep.failure?, hu]

/-- Updates that nothing follows make a run that fails with the first content that cannot be spelled. -/
theorem project_updates_failure (g : Setting) (supply : Supply) (us : List Update)
    (h : 0 ≤ supply.ids.layout.entropy ∨
      ∀ c ∈ us.flatMap Update.contents, ∀ k ∈ g.kinds, k.supports c = false) :
    (project g (State.fresh supply none false) (us.map .update)).failure =
      ((us.flatMap Update.contents).findSome? (BuilderKind.limit? g.kinds)).map .ofLimit := by
  rw [← findSome?_updates]
  refine project_failure g supply (by simp [RunStep.word?]) ?_
  rw [updatesOf_updates]
  exact h.imp_right fun hu u hmem c hc => hu c (List.mem_flatMap.mpr ⟨u, hmem, hc⟩)

/-- Updates make a run that ends well exactly when their items' identifiers can be drawn and all
their contents be spelled, or no content of theirs makes an item. -/
theorem project_ends_iff (g : Setting) (supply : Supply) (us : List Update) :
    (project g (State.fresh supply none false) (us.map .update)).failure = none ↔
      (0 ≤ supply.ids.layout.entropy ∨
          ∀ c ∈ us.flatMap Update.contents, ∀ k ∈ g.kinds, k.supports c = false) ∧
        ∀ c ∈ us.flatMap Update.contents, BuilderKind.limit? g.kinds c = none := by
  by_cases hnamed : 0 ≤ supply.ids.layout.entropy ∨
      ∀ c ∈ us.flatMap Update.contents, ∀ k ∈ g.kinds, k.supports c = false
  · rw [project_updates_failure g supply us hnamed, Option.map_eq_none_iff, List.findSome?_eq_none_iff]
    exact (and_iff_right hnamed).symm
  · refine ⟨fun h => absurd ?_ hnamed, fun h => absurd h.1 hnamed⟩
    obtain ⟨told, a, kind, last, htale, -⟩ := project_tale h
    by_cases hl : 0 ≤ supply.ids.layout.entropy
    · exact .inl hl
    · have hunsupported := htale.unsupported (by omega) fun b hb => by cases hb
      rw [contents_beats, updatesOf_updates] at hunsupported
      exact .inr hunsupported

/-! ### A run to look at -/

/-- Two messages, with counts inside a text and a content that is dropped, cut short between. -/
def cutShortSteps : List RunStep :=
  [.update ⟨⟨some "a", none, none⟩,
      [.ofText "One ", ⟨none, .usage (some ⟨some 3, none, none, []⟩)⟩, .ofText "", .ofText "text"]⟩,
    .incomplete (some (.text "max_output_tokens")),
    .update ⟨.none, [⟨none, .reasoning "Hm"⟩, ⟨none, .functionCall "call_1" "find" none⟩]⟩,
    .update ⟨⟨some "b", none, none⟩, [.ofText "Another"]⟩]

def cutShort : Stretch :=
  project ⟨.ofText "Hi", BuilderKind.extended, 0, true⟩
    (State.fresh ⟨⟨.standard, "resp_1", "conv_1", "key"⟩, 0, .cyclic⟩ none false) cutShortSteps

/-- A setting that hears requests to stop. -/
def talk : Setting := ⟨.ofText "Hi", BuilderKind.extended, 0, true⟩

def talkSupply : Supply := ⟨⟨.standard, "resp_1", "conv_1", "key"⟩, 0, .cyclic⟩

/-- A text with counts beside it, and then a call. -/
def talkSteps : List RunStep :=
  [.update ⟨.none, [.ofText "One ", ⟨none, .usage (some ⟨some 3, none, none, []⟩)⟩]⟩,
    .update ⟨.none, [.ofText "text", ⟨none, .functionCall "call_1" "find" none⟩]⟩]

/-- A consumer who says the same at every piece of a text. -/
def Voice.atTexts (w : Word) : Voice := fun e =>
  match e.body with
  | .textDelta .. => [w]
  | _ => []

/-- A run whose consumer cuts the answer short. -/
def overheard : Stretch :=
  Attended.project talk (.atTexts (.incomplete (some (.text "max_output_tokens"))))
    (State.fresh talkSupply none false) talkSteps

end Projection
end AgentGateway
