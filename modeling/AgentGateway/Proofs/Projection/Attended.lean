import AgentGateway.Proofs.Projection.Acts
import AgentGateway.Proofs.Projection.Margin

/-! Projections whose consumer speaks.

A run may be asked to stop, and its answer may be cut short, not only between two updates:
whoever is handed an event may say so before asking for the next one. A projection is
*attended* when a consumer may speak at every event of its acts.

What is said is noted in a state and changes nothing else of it. The notes are looked at in
two places only, when an update arrives and when the verdict is made; in between, telling
takes no notice of them (`contents_hear`, `close_hear`). So the words of one act can pile up
and be noted at its end. With a consumer who says nothing an attended projection is a
projection (`project_silent`). -/
namespace AgentGateway.Projection

/-- What a consumer says on being handed an event. -/
abbrev Voice := Event → List Word

def Voice.silent : Voice := fun _ => []

/-! ### Hearing words -/

namespace State

/-- What is noted of the words from outside. -/
def notes (p : State) : Option Value × Bool := (p.reason, p.cancelled)

/-- A state after some words. -/
def hear (p : State) (ws : List Word) : State :=
  { p with
    reason := Word.latest p.reason ws
    cancelled := p.cancelled || ws.contains .cancel }

@[simp] theorem hear_nil (p : State) : p.hear [] = p := by
  simp [hear, Word.latest]

theorem hear_append (p : State) (ws more : List Word) :
    p.hear (ws ++ more) = (p.hear ws).hear more := by
  simp only [hear, Word.latest_append, List.contains_append, Bool.or_assoc]

theorem notes_hear {p q : State} (h : p.notes = q.notes) (ws : List Word) :
    (p.hear ws).notes = (q.hear ws).notes := by
  obtain ⟨hreason, hcancelled⟩ := Prod.mk.inj h
  simp only [notes, hear, hreason, hcancelled]

end State

/-- A stretch with all its states after some words. -/
def Stretch.hear (s : Stretch) (ws : List Word) : Stretch :=
  { s with
    emitted := s.emitted.map fun e => { e with state := e.state.hear ws }
    state := s.state.hear ws }

/-! Hearing words notes them in the margin. -/

def Margin.hear (m : Margin) (ws : List Word) : Margin :=
  { m with
    reason := Word.latest m.reason ws
    cancelled := m.cancelled || ws.contains .cancel }

theorem Stretch.hear_andThen {s : Stretch} {next : State → Stretch} {ws : List Word}
    (h : ∀ q, next (q.hear ws) = (next q).hear ws) :
    (s.hear ws).andThen next = (s.andThen next).hear ws :=
  noted_andThen (fun m => m.hear ws) h

theorem close_hear (p : State) (ws : List Word) : close (p.hear ws) = (close p).hear ws :=
  close_noted p fun m => m.hear ws

/-! ### Attended stretches -/

namespace Stretch

/-- A stretch whose consumer speaks at its events. -/
def attended (s : Stretch) (voice : Voice) : Stretch :=
  { s with
    emitted := s.emitted.mapIdx fun n e =>
      { e with state := e.state.hear ((s.events.take n).flatMap voice) }
    state := s.state.hear (s.events.flatMap voice) }

variable (s : Stretch) (voice : Voice)

theorem getElem?_attended (n : Nat) :
    (s.attended voice).emitted[n]? = s.emitted[n]?.map fun e =>
      { e with state := e.state.hear ((s.events.take n).flatMap voice) } :=
  List.getElem?_mapIdx ..

@[simp] theorem events_attended : (s.attended voice).events = s.events := by
  refine List.ext_getElem? fun n => ?_
  simp only [events, List.getElem?_map, getElem?_attended, Option.map_map, Function.comp_def]

@[simp] theorem bodies_attended : (s.attended voice).bodies = s.bodies := by
  simp only [bodies, events_attended]

@[simp] theorem attended_quiet (p : State) : (quiet p).attended voice = quiet p := by
  show (⟨[], p.hear [], none⟩ : Stretch) = _
  rw [State.hear_nil, quiet]

@[simp] theorem attended_failed (p : State) (f : Failure) :
    (failed p f).attended voice = failed p f := by
  show (⟨[], p.hear [], some f⟩ : Stretch) = _
  rw [State.hear_nil, failed]

theorem attended_silent : s.attended .silent = s := by
  have hwords (events : List Event) : events.flatMap Voice.silent = [] := by
    simp [Voice.silent]
  obtain ⟨emitted, state, failure⟩ := s
  simp only [attended, hwords, State.hear_nil, List.mapIdx_eq_iff, Stretch.mk.injEq, and_true]
  exact fun n => (Option.map_id' ..).symm

variable {s voice}

theorem Draws.attended {supply : Supply} (h : Draws supply s) : Draws supply (s.attended voice) := by
  refine ⟨?_, ?_, h.ids⟩
  · rw [events_attended]
    exact h.numbers
  · rw [events_attended]
    exact h.counter

theorem Told.attended {kinds : List BuilderKind} {l : Layout} {a : Account} {bs : List Beat}
    (h : Told kinds l a bs s) : Told kinds l a bs (s.attended voice) := by
  obtain ⟨told, a', htale, hends⟩ := h
  refine ⟨told, a', ?_, hends⟩
  rw [bodies_attended]
  exact htale

end Stretch

/-! ### Attended acts -/

/-- What an act leaves of the words from outside. -/
theorem act_notes (g : Setting) (p : State) (a : Act) :
    (act g p a).state.notes = (p.hear a.word?.toList).notes := by
  cases a with
  | opening => simp [act, Act.word?, State.notes, (opening_tells g p).2.2.2.2]
  | step s =>
    cases s with
    | update u =>
      obtain ⟨hreason, hcancelled, -⟩ := update_kept g p u
      simp [act, step, Act.word?, RunStep.word?, State.notes, hreason, hcancelled]
    | fail f => simp [act, step, Act.word?, RunStep.word?, State.notes, Stretch.failed]
    | cancel => simp [act, step, Act.word?, RunStep.word?, State.notes, State.hear, Word.latest]
    | incomplete reason =>
      simp [act, step, Act.word?, RunStep.word?, State.notes, State.hear, Word.latest]
  | closing =>
    have h := close_telling { p with phase := .draining, source := .over }
    simp [act, Act.word?, State.notes, h.reason, h.cancelled]
  | verdict =>
    obtain ⟨supply, hstate⟩ := terminal_state g p
    show ((terminal g p).andThen _).state.notes = _
    cases h : (terminal g p).failure with
    | none => simp [Stretch.state_andThen _ h, hstate, Act.word?, State.notes]
    | some f => simp [Stretch.andThen_of_fails _ h, hstate, Act.word?, State.notes]

namespace Attended
variable (g : Setting) (voice : Voice)

/-- Acts one after the other, up to the first that fails. -/
def run (p : State) : List Act → Stretch
  | [] => .quiet p
  | a :: rest => ((act g p a).attended voice).andThen fun q => run q rest

/-- All that is said in the course of some acts, in order. -/
def said (p : State) : List Act → List Word
  | [] => []
  | a :: rest =>
    let t := (act g p a).attended voice
    a.word?.toList ++ t.events.flatMap voice ++ match t.failure with
      | none => said t.state rest
      | some _ => []

/-- Project a run with a consumer who speaks. A state that has been used is refused. -/
def project (p : State) (source : List RunStep) : Stretch :=
  if p.phase = .idle then run g voice p (acts source)
  else .failed p (.report (.generatorState reused))

theorem run_append (p : State) (before after : List Act) :
    run g voice p (before ++ after) = (run g voice p before).andThen fun q => run g voice q after := by
  induction before generalizing p with
  | nil => rfl
  | cons a rest ih => simp only [List.cons_append, run, Stretch.andThen_assoc, ih]

theorem run_draws (p : State) (as : List Act) : Stretch.Draws p.supply (run g voice p as) := by
  induction as generalizing p with
  | nil => exact .quiet p
  | cons a rest ih => exact (act_draws g p a).attended.andThen ih

theorem run_notes (p : State) (as : List Act) :
    (run g voice p as).state.notes = (p.hear (said g voice p as)).notes := by
  induction as generalizing p with
  | nil => simp [run, said]
  | cons a rest ih =>
    have hact : ((act g p a).attended voice).state.notes =
        (p.hear (a.word?.toList ++ ((act g p a).attended voice).events.flatMap voice)).notes := by
      rw [State.hear_append, Stretch.events_attended]
      exact State.notes_hear (act_notes g p a) _
    simp only [run, said]
    generalize (act g p a).attended voice = t at *
    cases ht : t.failure with
    | none =>
      rw [Stretch.state_andThen _ ht, ih, State.hear_append]
      exact State.notes_hear hact _
    | some f =>
      rw [Stretch.andThen_of_fails _ ht, List.append_nil]
      exact hact

theorem run_reason (p : State) (as : List Act) :
    (run g voice p as).state.reason = Word.latest p.reason (said g voice p as) :=
  congrArg Prod.fst (run_notes g voice p as)

theorem run_cancelled (p : State) (as : List Act) :
    (run g voice p as).state.cancelled = (p.cancelled || (said g voice p as).contains .cancel) :=
  congrArg Prod.snd (run_notes g voice p as)

/-- Where the consumer is silent, what is said is the words among the acts. -/
theorem said_silent {p : State} {as : List Act} (h : (run g .silent p as).failure = none) :
    said g .silent p as = as.filterMap Act.word? := by
  induction as generalizing p with
  | nil => rfl
  | cons a rest ih =>
    simp only [run, Stretch.attended_silent] at h
    obtain ⟨hact, hrest⟩ := Stretch.failure_andThen_eq_none.mp h
    have hwords : (act g p a).events.flatMap Voice.silent = [] := by simp [Voice.silent]
    simp only [said, Stretch.attended_silent, hact, hwords, ih hrest, List.append_nil]
    cases hword : a.word? <;> simp [hword]

theorem run_silent_steps (p : State) (source : List RunStep) :
    run g .silent p (source.map .step) = steps g p source := by
  induction source generalizing p with
  | nil => rfl
  | cons s rest ih =>
    simp only [List.map_cons, run, steps, act, Stretch.attended_silent, ih]

/-- With a consumer who says nothing an attended projection is a projection. -/
theorem project_silent (p : State) (source : List RunStep) :
    project g .silent p source = Projection.project g p source := by
  unfold project Projection.project
  split
  · simp only [acts, List.cons_append, run, Stretch.attended_silent, run_append, run_silent_steps,
      fromIdle, processed, Stretch.andThen_assoc]
    congr
    funext q
    congr
    funext r
    simp [act, ending, Stretch.andThen_assoc]
    rfl
  · rfl

end Attended

end AgentGateway.Projection
