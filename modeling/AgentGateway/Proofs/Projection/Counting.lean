import AgentGateway.Proofs.Projection.Lifecycle
import AgentGateway.Proofs.Projection.Margin
import AgentGateway.Proofs.Run.Chunking
import AgentGateway.Proofs.Usage.Addition

/-! Token counts change nothing but the last report.

Counts are taken out of a source (`RunStep.uncounted`) by taking the contents that bring them
out of its updates, which may leave an update empty. A projection without them is the
projection with them, the notes of its states left out (`steps_uncounted`): counting is done
in the margin, where telling does not look. So a run is the run of its source without counts,
and its verdict reports them (`project_counts`). Two runs whose sources differ in their counts
only differ in that report only, and there the order of the counts does not matter. -/
namespace AgentGateway

/-! ### Without counts -/

def Update.uncounted (u : Update) : Update :=
  { u with contents := u.contents.filter fun c => !c.isUsage }

def RunStep.uncounted : RunStep → RunStep
  | .update u => .update u.uncounted
  | s => s

/-- The token counts that a source brings, in order. -/
def countsOf (source : List RunStep) : List Usage :=
  ((updatesOf source).flatMap Update.contents).filterMap Content.counts

/-- An event with another usage in what a verdict says. -/
def Event.reporting (report : UsageReport) (e : Event) : Event :=
  match e.body with
  | .envelope .completed r => { e with body := .envelope .completed { r with usage := report } }
  | .envelope .incomplete r => { e with body := .envelope .incomplete { r with usage := report } }
  | _ => e

/-- An event without the usage that a verdict reports. -/
def Event.uncounted (e : Event) : Event := e.reporting .zero

theorem Event.uncounted_reporting (report : UsageReport) (e : Event) :
    (e.reporting report).uncounted = e.uncounted := by
  obtain ⟨number, body, extra⟩ := e
  cases body with
  | envelope kind r => cases kind <;> rfl
  | _ => rfl

theorem Event.reporting_of_no_verdict {e : Event}
    (h : ∀ kind r, e.body = .envelope kind r → kind = .created ∨ kind = .inProgress)
    (report : UsageReport) : e.reporting report = e := by
  obtain ⟨number, body, extra⟩ := e
  cases body with
  | envelope kind r => obtain rfl | rfl := h kind r rfl <;> rfl
  | _ => rfl

namespace Projection

/-! ### Counting in the margin -/

/-- A margin in which no counts are noted, nor that the last update brought some. -/
def Margin.uncounted (m : Margin) : Margin :=
  { m with
    usage := none
    previous := m.previous.map Update.uncounted }

def State.uncounted (p : State) : State := p.noted Margin.uncounted

def Stretch.uncounted (s : Stretch) : Stretch := s.noted Margin.uncounted

theorem contents_uncounted (g : Setting) (p : State) (cs : List Content) :
    contents g p.uncounted (cs.filter fun c => !c.isUsage) = (contents g p cs).uncounted := by
  induction cs generalizing p with
  | nil => rfl
  | cons c rest ih =>
    by_cases hc : c.isUsage = true
    · -- Adding counts up changes nothing but what is left out of the margin.
      obtain ⟨details, hbody⟩ := Content.isUsage_iff.mp hc
      have hquiet : content g p c = .quiet { p with usage := Usage.combine p.usage details } := by
        simp only [content, hbody]
      rw [List.filter_cons_of_neg (by simp [hc]), contents, hquiet, Stretch.quiet_andThen]
      exact ih { p with usage := Usage.combine p.usage details }
    · have hbody : ∀ details, c.body ≠ .usage details := fun details he =>
        hc (Content.isUsage_iff.mpr ⟨details, he⟩)
      rw [List.filter_cons_of_pos (by simp [hc]), contents, contents, State.uncounted,
        content_noted p _ g hbody]
      exact Stretch.noted_andThen _ ih

/-- Where a message begins depends on who an update is by, not on what it counts. -/
theorem closedFor_uncounted (p : State) (u : Update) :
    closedFor p.uncounted u.uncounted = (closedFor p u).uncounted := by
  have hprevious : (p.previous.map Update.uncounted).map Update.identity =
      p.previous.map Update.identity := by
    rw [Option.map_map]
    rfl
  have hnew : Update.isNewMessage (some u.uncounted) p.uncounted.previous =
      Update.isNewMessage (some u) p.previous := Update.isNewMessage_congr rfl hprevious
  rw [closedFor, closedFor, hnew]
  split
  · exact close_noted p _
  · rfl

theorem update_uncounted (g : Setting) (p : State) (u : Update) :
    update g p.uncounted u.uncounted = (update g p u).uncounted := by
  cases hheard : g.cancellable && p.cancelled with
  | true =>
    rw [update_of_cancelled u hheard, update_of_cancelled (p := p.uncounted) u.uncounted hheard]
    rfl
  | false =>
    rw [update_of_heard u hheard, update_of_heard (p := p.uncounted) u.uncounted hheard,
      closedFor_uncounted]
    refine Stretch.noted_andThen _ fun q => ?_
    have hcarry : u.uncounted.carry (q.previous.map Update.uncounted) =
        (u.carry q.previous).uncounted := by
      cases q.previous <;> rfl
    have hstate : { q.uncounted with
          previous := some (u.uncounted.carry (q.previous.map Update.uncounted)) } =
        ({ q with previous := some (u.carry q.previous) } : State).uncounted := by
      rw [hcarry]
      rfl
    exact hstate ▸ contents_uncounted g _ u.contents

/-- Steps without counts are the steps with them, nothing being noted of the counts. -/
theorem steps_uncounted (g : Setting) (p : State) (source : List RunStep) :
    steps g p.uncounted (source.map RunStep.uncounted) = (steps g p source).uncounted := by
  induction source generalizing p with
  | nil => rfl
  | cons s rest ih =>
    have hstep : step g p.uncounted s.uncounted = (step g p s).uncounted := by
      cases s with
      | update u => exact update_uncounted g p u
      | fail | cancel | incomplete => rfl
    rw [List.map_cons, steps, hstep, steps]
    exact Stretch.noted_andThen _ ih

/-! ### The report -/

section
variable (g : Setting) (supply : Supply) (reason : Option Value) (cancelled : Bool)
  (source : List RunStep)

/-- Up to its verdict a run does the same without its counts. -/
theorem unjudged_uncounted :
    Attended.run g .silent (State.fresh supply reason cancelled)
        (Attended.unjudged (source.map RunStep.uncounted)) =
      (Attended.run g .silent (State.fresh supply reason cancelled)
        (Attended.unjudged source)).uncounted := by
  have hopening : opening g (State.fresh supply reason cancelled) =
      (opening g (State.fresh supply reason cancelled)).uncounted := rfl
  have hclosing (q : State) : Attended.run g .silent q.uncounted [.closing] =
      (Attended.run g .silent q [.closing]).uncounted := by
    rw [Attended.run_single, Attended.run_single, Stretch.attended_silent, Stretch.attended_silent]
    exact close_noted { q with phase := .draining, source := .over } Margin.uncounted
  simp only [Attended.unjudged, Attended.processing, List.cons_append, Attended.run, act,
    Stretch.attended_silent]
  conv_lhs => rw [hopening]
  refine Stretch.noted_andThen _ fun p => ?_
  rw [Attended.run_append, Attended.run_append, Attended.run_silent_steps,
    Attended.run_silent_steps]
  exact steps_uncounted g p source ▸ Stretch.noted_andThen _ hclosing

/-- Up to its verdict a run says nothing that reports counts. -/
theorem unjudged_reporting (report : UsageReport) :
    let t := Attended.run g .silent (State.fresh supply reason cancelled)
      (Attended.unjudged source)
    t.events.map (Event.reporting report) = t.events := by
  intro t
  obtain ⟨bs, told, a, htale, hbodies, -⟩ :=
    Attended.unjudged_told g .silent supply reason cancelled source
  refine (List.map_congr_left fun e he => ?_).trans (List.map_id _)
  refine Event.reporting_of_no_verdict (fun kind r hbody => ?_) report
  have hmem : e.body ∈ t.bodies := List.mem_map_of_mem he
  rw [hbodies, hbody] at hmem
  obtain hherald | htold := List.mem_append.mp hmem
  · obtain ⟨hkind, -⟩ : (kind = .created ∨ kind = .inProgress) ∧ _ := by
      simpa [Attended.heralds, ← or_and_right] using hherald
    exact hkind
  · exact absurd htold (htale.progress.envelope_not_mem kind r)

/-- A run that comes to its verdict has added up the counts of its source. -/
theorem unjudged_usage
    (h : (Attended.run g .silent (State.fresh supply reason cancelled)
      (Attended.unjudged source)).failure = none) :
    (Attended.run g .silent (State.fresh supply reason cancelled)
      (Attended.unjudged source)).state.usage = Usage.fold ((countsOf source).map some) := by
  obtain ⟨bs, told, a, htale, -, hends⟩ :=
    Attended.unjudged_told g .silent supply reason cancelled source
  obtain ⟨rfl, haccount⟩ := hends h
  have hcontents : (beats none (updatesOf source) ++ [Beat.boundary]).filterMap Beat.content? =
      (updatesOf source).flatMap Update.contents := by
    rw [List.filterMap_append, contents_beats]
    exact List.append_nil _
  have husage := htale.usage_eq
  rw [← haccount, hcontents, Usage.after_eq_foldl] at husage
  exact husage

/-- A verdict is made whatever was counted, and reports it. -/
theorem verdict_reports (q : State) :
    let t := Attended.run g .silent q [.verdict]
    let bare := Attended.run g .silent q.uncounted [.verdict]
    t.failure = bare.failure ∧ t.events = bare.events.map (Event.reporting (.ofUsage q.usage)) := by
  simp only [Attended.run_single, Stretch.attended_silent, act]
  have hreason : q.uncounted.reason = q.reason := rfl
  unfold terminal
  rw [hreason]
  cases q.reason.map fun v => Response.readIncomplete (.object [("reason", v)]) with
  | none => exact ⟨rfl, rfl⟩
  | some read => cases read <;> exact ⟨rfl, rfl⟩

/-- **A run is the run without its counts**, but for its verdict, which reports them all added
up. -/
theorem project_counts :
    let run := project g (State.fresh supply reason cancelled) source
    let bare := project g (State.fresh supply reason cancelled) (source.map RunStep.uncounted)
    run.failure = bare.failure ∧ run.events = bare.events.map (Event.reporting
      (.ofUsage (Usage.fold ((countsOf source).map some)))) := by
  intro run bare
  have hrun : run = _ := (Attended.project_silent g _ source).symm.trans
    (Attended.project_fresh g .silent supply reason cancelled source)
  have hbare : bare = _ := (Attended.project_silent g _ _).symm.trans
    (Attended.project_fresh g .silent supply reason cancelled (source.map RunStep.uncounted))
  have hquiet := unjudged_reporting g supply reason cancelled source
  have husage := unjudged_usage g supply reason cancelled source
  rw [unjudged_uncounted] at hbare
  generalize Attended.run g .silent (State.fresh supply reason cancelled)
    (Attended.unjudged source) = t at *
  have hevents : t.uncounted.events = t.events := Stretch.events_noted _
  cases ht : t.failure with
  | some f =>
    -- A run that fails before its verdict has told nothing of its counts.
    rw [Stretch.andThen_of_fails _ ht] at hrun
    rw [Stretch.andThen_of_fails (s := t.uncounted) _ ht] at hbare
    rw [hrun, hbare]
    exact ⟨rfl, by rw [hevents, hquiet]⟩
  | none =>
    obtain ⟨hfailure, hverdict⟩ := verdict_reports g t.state
    rw [← husage ht]
    refine ⟨?_, ?_⟩
    · rw [hrun, hbare, Stretch.andThen_of_ends _ ht,
        Stretch.andThen_of_ends (s := t.uncounted) _ ht]
      exact hfailure
    · rw [hrun, hbare, Stretch.events_andThen _ ht,
        Stretch.events_andThen (s := t.uncounted) _ ht, List.map_append, hevents, hquiet, hverdict]
      rfl

end

/-! ### Two runs -/

section
variable (g : Setting) (supply : Supply) (reason : Option Value) (cancelled : Bool)
  {source other : List RunStep}

/-- Two runs whose sources are the same without their counts tell the same, except for what
their verdicts report. -/
theorem project_uncounted
    (h : source.map RunStep.uncounted = other.map RunStep.uncounted) :
    let run := project g (State.fresh supply reason cancelled)
    (run source).failure = (run other).failure ∧
      (run source).events.map Event.uncounted = (run other).events.map Event.uncounted := by
  intro run
  obtain ⟨hfailure, hevents⟩ := project_counts g supply reason cancelled source
  obtain ⟨hfailure', hevents'⟩ := project_counts g supply reason cancelled other
  have hreports (report : UsageReport) :
      Event.uncounted ∘ Event.reporting report = Event.uncounted :=
    funext (Event.uncounted_reporting report)
  refine ⟨hfailure.trans (h ▸ hfailure'.symm), ?_⟩
  rw [hevents, hevents', List.map_map, List.map_map, hreports, hreports, h]

/-- Counts in another order, or elsewhere, make no difference at all. -/
theorem project_moved
    (h : source.map RunStep.uncounted = other.map RunStep.uncounted)
    (moved : (countsOf source).Perm (countsOf other)) (keyed : ∀ u ∈ countsOf source, u.WellKeyed) :
    let run := project g (State.fresh supply reason cancelled)
    (run source).events = (run other).events := by
  intro run
  have hkeyed : ∀ a ∈ (countsOf source).map some, ∀ u ∈ a, u.WellKeyed := by
    intro a ha u hu
    obtain ⟨v, hv, rfl⟩ := List.mem_map.mp ha
    cases hu
    exact keyed u hv
  have hreport := UsageReport.ofUsage_congr (Usage.fold_perm (moved.map some) hkeyed)
  rw [(project_counts g supply reason cancelled source).2,
    (project_counts g supply reason cancelled other).2, hreport, h]

end

/-- **Counts aside.** Adding up usages, any of which may be absent, does not look at their order
or grouping, and an absent one adds nothing. A run tells what it tells without its counts, with
all of them added up in the report of its verdict. So two runs whose sources are the same but for
the contents that bring counts, wherever these stand and whatever they say, fail the same and tell
the same events, except for the usage that their verdicts report; and if the one source brings
the counts of the other in whatever order, that is the same too. -/
theorem counts_aside :
    (∀ a : Option Usage, Usage.combine none a = a ∧ Usage.combine a none = a) ∧
      (∀ a b : Option Usage, (∀ u ∈ a, u.WellKeyed) → (∀ u ∈ b, u.WellKeyed) →
        Usage.Same (Usage.combine a b) (Usage.combine b a)) ∧
      (∀ a b c : Option Usage, (∀ u ∈ b, u.WellKeyed) → (∀ u ∈ c, u.WellKeyed) →
        Usage.Same (Usage.combine (Usage.combine a b) c) (Usage.combine a (Usage.combine b c))) ∧
      ∀ (g : Setting) (supply : Supply) (reason : Option Value) (cancelled : Bool)
        (source : List RunStep),
        let run := project g (State.fresh supply reason cancelled)
        (run source).events = (run (source.map RunStep.uncounted)).events.map
            (Event.reporting (.ofUsage (Usage.fold ((countsOf source).map some)))) ∧
          ∀ other : List RunStep, source.map RunStep.uncounted = other.map RunStep.uncounted →
            (run source).failure = (run other).failure ∧
              (run source).events.map Event.uncounted = (run other).events.map Event.uncounted ∧
              ((countsOf source).Perm (countsOf other) → (∀ u ∈ countsOf source, u.WellKeyed) →
                (run source).events = (run other).events) := by
  refine ⟨fun a => ⟨Usage.combine_none_left a, Usage.combine_none_right a⟩,
    fun a b ha hb => Usage.combine_comm ha hb, fun a b c hb hc => Usage.combine_assoc a hb hc, ?_⟩
  intro g supply reason cancelled source run
  refine ⟨(project_counts g supply reason cancelled source).2, fun other h => ?_⟩
  obtain ⟨hfailure, hevents⟩ := project_uncounted g supply reason cancelled h
  exact ⟨hfailure, hevents, project_moved g supply reason cancelled h⟩

/-- Counts inside a text and in an update of their own, and the same counts before the text and
behind it, with others between that say nothing. -/
theorem counts_moved :
    let asked : Usage := ⟨some 3, none, none, [(UsageReport.cachedKey, 1)]⟩
    let made : Usage := ⟨some 1, some 5, some 6, [("Cost", 2), (UsageReport.cachedKey, 2)]⟩
    let counts (u : Option Usage) : Content := ⟨none, .usage u⟩
    let within : List Update :=
      [⟨⟨some "a", none, none⟩, [.ofText "One ", counts (some asked), .ofText "text"]⟩,
        ⟨⟨some "b", none, none⟩, [counts (some made)]⟩,
        ⟨.none, [.ofText "Another"]⟩]
    let around : List Update :=
      [⟨⟨some "a", none, none⟩, [counts (some made), .ofText "One ", .ofText "text"]⟩,
        ⟨⟨some "b", none, none⟩, []⟩,
        ⟨.none, [counts none, .ofText "Another", counts (some asked)]⟩]
    let run (us : List Update) := project talk (State.fresh talkSupply none false) (us.map .update)
    Usage.Same (Usage.combine (some asked) (some made)) (Usage.combine (some made) (some asked)) ∧
      (run within).failure = none ∧ (run within).events = (run around).events ∧
      (run within).events.map Event.uncounted =
        (run (within.map Update.uncounted)).events.map Event.uncounted := by
  intro asked made counts within around run
  have hasked : asked.WellKeyed := by simp [asked, Usage.WellKeyed, Keyed.keys]
  have hmade : made.WellKeyed := by
    simp [made, Usage.WellKeyed, Keyed.keys, UsageReport.cachedKey]
  have hcounts : countsOf (within.map .update) = [asked, made] := rfl
  have hkeyed : ∀ u ∈ countsOf (within.map .update), u.WellKeyed := by
    rw [hcounts]
    exact List.forall_mem_cons.mpr ⟨hasked, List.forall_mem_singleton.mpr hmade⟩
  obtain ⟨-, hcomm, -, hruns⟩ := counts_aside
  have hsame : Usage.Same (Usage.combine (some asked) (some made)) _ :=
    hcomm (some asked) (some made) (by rintro u ⟨⟩; exact hasked) (by rintro u ⟨⟩; exact hmade)
  have hends : (run within).failure = none :=
    (project_updates_failure talk talkSupply within (.inl (by decide))).trans rfl
  obtain ⟨-, hother⟩ := hruns talk talkSupply none false (within.map .update)
  obtain ⟨-, -, hmoved⟩ := hother (around.map .update) rfl
  obtain ⟨-, hbare, -⟩ := hother ((within.map Update.uncounted).map .update) rfl
  exact ⟨hsame, hends, hmoved (.swap made asked []) hkeyed, hbare⟩

end Projection
end AgentGateway
