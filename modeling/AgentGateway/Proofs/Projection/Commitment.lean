import AgentGateway.Proofs.Projection.Attended

/-! When finished items are committed to the output.

An item is committed when the event that it is done is made, which may be before that event is
handed out: closing a text item makes three events at once, and the item is in the output while
the first two of them are handed out. The invariant is `Stretch.Commits`: what has been handed
out is in the output, which is at most one item ahead, and in step with it at the end. -/
namespace AgentGateway.Projection

theorem doneItems_append (before after : List Event) :
    doneItems (before ++ after) = doneItems before ++ doneItems after := List.filterMap_append

/-- A state whose output holds what has been handed out, and at most one item more. -/
def Ahead (handed : List Item) (p : State) : Prop :=
  handed <+: p.output ∧ p.output.length ≤ handed.length + 1

theorem Ahead.of_eq {handed : List Item} {p : State} (h : p.output = handed) : Ahead handed p := by
  subst h
  exact ⟨List.prefix_rfl, Nat.le_succ _⟩

/-- A stretch whose done events keep up with the output that it began with. -/
structure Stretch.Commits (p : State) (s : Stretch) : Prop where
  emissions : ∀ n e, s.emitted[n]? = some e →
    Ahead (p.output ++ doneItems (s.events.take (n + 1))) e.state
  final : s.state.output = p.output ++ doneItems s.events

namespace Stretch.Commits
variable {p q : State} {s : Stretch}

theorem quiet (h : q.output = p.output) : Commits p (.quiet q) :=
  ⟨fun _ _ he => (nomatch he), by simpa [doneItems] using h⟩

theorem failed (f : Failure) (h : q.output = p.output) : Commits p (.failed q f) :=
  ⟨fun _ _ he => (nomatch he), by simpa [doneItems] using h⟩

theorem of_output (h : Commits q s) (houtput : q.output = p.output) : Commits p s := by
  obtain ⟨hemissions, hfinal⟩ := h
  rw [houtput] at hemissions hfinal
  exact ⟨hemissions, hfinal⟩

theorem andThen {next : State → Stretch} (h : Commits p s) (hnext : ∀ q, Commits q (next q)) :
    Commits p (s.andThen next) := by
  cases hs : s.failure with
  | some f =>
    rw [andThen_of_fails next hs]
    exact h
  | none =>
    obtain ⟨hemissions, hfinal⟩ := hnext s.state
    rw [h.final] at hemissions hfinal
    have hevents := events_andThen next hs
    refine ⟨fun n e he => ?_, ?_⟩
    · rw [andThen_of_ends next hs, List.getElem?_append] at he
      rw [hevents, List.take_append, length_events]
      split at he
      · rw [Nat.sub_eq_zero_of_le ‹_›, List.take_zero, List.append_nil]
        exact h.emissions n e he
      · rw [List.take_of_length_le (by rw [length_events]; omega), doneItems_append,
          ← List.append_assoc, Nat.sub_add_comm (by omega)]
        exact hemissions _ e he
    · rw [hevents, doneItems_append, ← List.append_assoc, state_andThen next hs, hfinal]

/-- What a consumer says is not committed to the output. -/
theorem attended {voice : Voice} (h : Commits p s) : Commits p (s.attended voice) := by
  refine ⟨fun n e he => ?_, ?_⟩
  · rw [getElem?_attended, Option.map_eq_some_iff] at he
    obtain ⟨e, he, rfl⟩ := he
    rw [events_attended]
    exact h.emissions n e he
  · rw [events_attended]
    exact h.final

/-- So it is wherever a consumer stops. -/
theorem take (h : Commits p s) (n : Nat) :
    Ahead (p.output ++ doneItems (s.take n).events) (s.take n).state := by
  unfold Stretch.take
  split
  · have htaken := h.emissions (n - 1) _ ‹_›
    rwa [events, ← List.map_take] at htaken
  · exact .of_eq h.final

end Stretch.Commits

open Stretch (Commits)

/-! ### The acts of a projection -/

theorem emitBodies_commits (p : State) (b : ItemBuilder) (bodies : List Event.Body) :
    Commits p (emitBodies p b bodies) := by
  induction bodies generalizing p b with
  | nil => exact .quiet rfl
  | cons body rest ih =>
    obtain ⟨hemissions, hfinal⟩ := ih (emitBody p b body).state (b.after body)
    have houtput : (emitBody p b body).state.output =
        p.output ++ doneItems [(emitBody p b body).event] := by
      simp only [emitBody, doneItems]
      cases h : (p.supply.emit body).1.doneItem? <;> simp [h]
    have hevents : (emitBodies p b (body :: rest)).events =
        [(emitBody p b body).event] ++
          (emitBodies (emitBody p b body).state (b.after body) rest).events := rfl
    rw [houtput] at hemissions hfinal
    refine ⟨fun n e he => ?_, ?_⟩
    · cases n with
      | zero =>
        obtain rfl := Option.some.inj he
        exact .of_eq houtput
      | succ n =>
        have hrest := hemissions n e he
        rwa [List.append_assoc, ← doneItems_append] at hrest
    · rw [hevents, doneItems_append, ← List.append_assoc]
      exact hfinal

/-- Completing a builder finishes at most its one item. -/
theorem finished_completion (b : ItemBuilder) : (finished b.completion).length ≤ 1 := by
  unfold ItemBuilder.completion
  split
  · exact Nat.zero_le _
  · split
    · exact Nat.le_refl _
    · exact Nat.zero_le _

theorem close_commits (p : State) : Commits p (close p) := by
  unfold close
  cases p.builder with
  | none => exact .quiet rfl
  | some b =>
    have hone : (doneItems (p.supply.emitAll b.completion).1).length ≤ 1 := by
      rw [doneItems_eq, bodies_emitAll]
      exact finished_completion b
    have hevents (q : State) (events : List Event) :
        (events.map fun e => (⟨e, q⟩ : Emission)).map Emission.event = events := by
      rw [List.map_map]
      exact List.map_id _
    refine ⟨fun n e he => ?_, ?_⟩
    · obtain ⟨event, -, rfl⟩ := Option.map_eq_some_iff.mp (List.getElem?_map ▸ he)
      simp only [Stretch.events, hevents]
      generalize (p.supply.emitAll b.completion).1 = events at *
      refine ⟨(List.prefix_append_right_inj _).mpr ((List.take_prefix _ events).filterMap _), ?_⟩
      simp only [List.length_append]
      omega
    · simp only [Stretch.events, hevents]

/-- That done events keep up with the output is a law of steps. -/
theorem commits_law : Stretch.Law Commits where
  quiet _ := .quiet rfl
  failed _ f := .failed f rfl
  emitBodies := emitBodies_commits
  close := close_commits
  andThen := Commits.andThen
  of_start h houtput _ := h.of_output houtput

theorem envelope_commits (kind : Envelope) (snapshot : State → Response) (p : State) :
    Commits p (envelope kind snapshot p) := by
  refine ⟨fun n e he => ?_, (List.append_nil _).symm⟩
  cases n with
  | zero =>
    obtain rfl := Option.some.inj he
    exact .of_eq (List.append_nil _).symm
  | succ n => cases he

theorem act_commits (g : Setting) (p : State) (a : Act) : Commits p (act g p a) := by
  cases a with
  | opening =>
    have hheralds := (envelope_commits .created (·.snapshot g .inProgress)
      { p with phase := .opened }).andThen fun q =>
        (envelope_commits .inProgress (·.snapshot g .inProgress) q).andThen fun r =>
          Commits.quiet (q := { r with source := .started }) rfl
    exact hheralds.of_output rfl
  | step s => exact commits_law.step g p s
  | closing => exact (close_commits _).of_output rfl
  | verdict =>
    have hterminal : Commits p (terminal g p) := by
      unfold terminal
      split
      · exact envelope_commits ..
      · exact .failed _ rfl
      · exact envelope_commits ..
    exact hterminal.andThen fun q => Commits.quiet (q := { q with phase := .done }) rfl

theorem Attended.run_commits (g : Setting) (voice : Voice) (p : State) (as : List Act) :
    Commits p (run g voice p as) := by
  induction as generalizing p with
  | nil => exact .quiet rfl
  | cons a rest ih => exact (act_commits g p a).attended.andThen ih

theorem Attended.project_commits (g : Setting) (voice : Voice) (p : State)
    (source : List RunStep) : Commits p (project g voice p source) := by
  unfold project
  split
  · exact run_commits g voice p (acts source)
  · exact .failed _ rfl

end AgentGateway.Projection
