import AgentGateway.Proofs.Projection.Course

/-! The phases of a projection.

Each kind of act has its place: opening brings a projection to the second phase, steps to the
third at most, closing to the fourth, and only a verdict that is told ends it. Acts in that
order move it forward only (`Attended.trail_onward`): through all the states that it passes,
after an event or between two acts, the phases never go back. None of these is the first
phase, so a projection that has begun cannot be used again (`Attended.project_of_begun`). -/
namespace AgentGateway.Projection

/-- The place of a phase among all phases. -/
def Phase.rank : Phase → Nat
  | idle => 0
  | opened => 1
  | streaming => 2
  | draining => 3
  | done => 4

def State.rank (p : State) : Nat := p.phase.rank

theorem State.not_done_of_rank {p : State} (h : p.rank ≤ 3) : p.phase ≠ .done := by
  intro hdone
  rw [rank, hdone] at h
  exact absurd h (by decide)

/-- States whose phases never go back. -/
def Onward (states : List State) : Prop := states.Pairwise fun p q => p.rank ≤ q.rank

theorem onward_iff {states : List State} :
    Onward states ↔ (states.map State.phase).Pairwise fun a b => a.rank ≤ b.rank :=
  (List.pairwise_map (R := fun a b => Phase.rank a ≤ b.rank)).symm

/-- Where some states lead up to one from which others go on, all of them are onward. -/
theorem Onward.join {before after : List State} {p : State} (h : Onward (before ++ [p]))
    (h' : Onward (p :: after)) : Onward (before ++ p :: after) := by
  obtain ⟨hbefore, -, hp⟩ := List.pairwise_append.mp h
  refine List.pairwise_append.mpr ⟨hbefore, h', fun a ha b hb => ?_⟩
  have hap := hp a ha p (List.mem_singleton_self p)
  obtain rfl | hb := List.mem_cons.mp hb
  · exact hap
  · exact Nat.le_trans hap ((List.pairwise_cons.mp h').1 b hb)

theorem Onward.of_phase {states : List State} {phase : Phase}
    (h : ∀ p ∈ states, p.phase = phase) : Onward states := by
  refine List.pairwise_iff_getElem.mpr fun i j hi hj _ => Nat.le_of_eq (congrArg Phase.rank ?_)
  exact (h _ (List.getElem_mem hi)).trans (h _ (List.getElem_mem hj)).symm

/-! ### The phases of a stretch -/

/-- The states that a stretch passes, after each event and at its end. -/
def Stretch.states (s : Stretch) : List State := s.emitted.map Emission.state ++ [s.state]

/-- A stretch that keeps the phase it began with. -/
def Stretch.Keeps (p : State) (s : Stretch) : Prop := ∀ q ∈ s.states, q.phase = p.phase

/-- A stretch that only moves forward, up to some place. -/
structure Stretch.Forward (p : State) (s : Stretch) (top : Nat) : Prop where
  onward : Onward (p :: s.states)
  below : s.state.rank ≤ top

namespace Stretch

theorem states_andThen {s : Stretch} (next : State → Stretch) (h : s.failure = none) :
    (s.andThen next).states = s.emitted.map Emission.state ++ (next s.state).states := by
  rw [andThen_of_ends next h]
  simp only [states, List.map_append, List.append_assoc]

/-- What a consumer says changes nothing that no word changes. -/
theorem map_states_attended {β : Type} (s : Stretch) (voice : Voice) {f : State → β}
    (hf : ∀ q ws, f (q.hear ws) = f q) : (s.attended voice).states.map f = s.states.map f := by
  simp only [states, List.map_append, List.map_map]
  congr 1
  · refine List.ext_getElem? fun n => ?_
    simp only [List.getElem?_map, getElem?_attended, Option.map_map, Function.comp_def, hf]
  · exact congrArg ([·]) (hf ..)

theorem phase_of_mem_attended {s : Stretch} {voice : Voice} {e : Emission}
    (he : e ∈ (s.attended voice).emitted) :
    ∃ e' ∈ s.emitted, e.state.phase = e'.state.phase := by
  obtain ⟨n, hn⟩ := List.mem_iff_getElem?.mp he
  rw [getElem?_attended, Option.map_eq_some_iff] at hn
  obtain ⟨e', he', rfl⟩ := hn
  exact ⟨e', List.mem_of_getElem? he', rfl⟩

theorem Keeps.emission {p : State} {s : Stretch} {e : Emission} (h : Keeps p s)
    (he : e ∈ s.emitted) : e.state.phase = p.phase :=
  h e.state (List.mem_append_left _ (List.mem_map_of_mem he))

theorem Keeps.final {p : State} {s : Stretch} (h : Keeps p s) : s.state.phase = p.phase :=
  h s.state (List.mem_append_right _ (List.mem_singleton_self _))

theorem Keeps.quiet {p q : State} (h : q.phase = p.phase) : Keeps p (.quiet q) := by
  intro r hr
  rwa [List.mem_singleton.mp hr]

theorem Keeps.failed {p q : State} (f : Failure) (h : q.phase = p.phase) :
    Keeps p (.failed q f) := by
  intro r hr
  rwa [List.mem_singleton.mp hr]

theorem Keeps.forward {p : State} {s : Stretch} {top : Nat} (h : Keeps p s) (hp : p.rank ≤ top) :
    Forward p s top := by
  refine ⟨Onward.of_phase (List.forall_mem_cons.mpr ⟨rfl, h⟩), ?_⟩
  rwa [State.rank, h.final]

namespace Forward
variable {p q : State} {s : Stretch} {top : Nat}

theorem quiet (h : p.rank ≤ q.rank) (hq : q.rank ≤ top) : Forward p (.quiet q) top :=
  ⟨List.pairwise_pair.mpr h, hq⟩

theorem failed (f : Failure) (h : p.rank ≤ q.rank) (hq : q.rank ≤ top) :
    Forward p (.failed q f) top :=
  ⟨List.pairwise_pair.mpr h, hq⟩

/-- Whatever is emitted on the way is not ahead of the end. -/
theorem emission (h : Forward p s top) {e : Emission} (he : e ∈ s.emitted) :
    e.state.rank ≤ top := by
  obtain ⟨-, honward⟩ := List.pairwise_cons.mp h.onward
  obtain ⟨-, -, hbefore⟩ := List.pairwise_append.mp honward
  exact Nat.le_trans (hbefore _ (List.mem_map_of_mem he) _ (List.mem_singleton_self _)) h.below

theorem of_le (h : Forward q s top) (hq : p.rank ≤ q.rank) : Forward p s top := by
  obtain ⟨hsince, honward⟩ := List.pairwise_cons.mp h.onward
  exact ⟨List.pairwise_cons.mpr ⟨fun r hr => Nat.le_trans hq (hsince r hr), honward⟩, h.below⟩

theorem andThen {next : State → Stretch} {top' : Nat} (h : Forward p s top) (htop : top ≤ top')
    (hnext : ∀ q, q.rank ≤ top → Forward q (next q) top') : Forward p (s.andThen next) top' := by
  cases hs : s.failure with
  | some f =>
    rw [andThen_of_fails next hs]
    exact ⟨h.onward, Nat.le_trans h.below htop⟩
  | none =>
    obtain ⟨honward, hbelow⟩ := hnext s.state h.below
    refine ⟨?_, by rwa [state_andThen next hs]⟩
    rw [states_andThen next hs]
    have hjoined : Onward (p :: s.emitted.map Emission.state ++ s.state :: (next s.state).states) :=
      Onward.join h.onward honward
    exact hjoined.sublist (((List.sublist_cons_self ..).append_left _).cons_cons p)

theorem attended {voice : Voice} (h : Forward p s top) : Forward p (s.attended voice) top := by
  refine ⟨?_, h.below⟩
  rw [onward_iff, List.map_cons, map_states_attended _ _ fun _ _ => rfl, ← List.map_cons,
    ← onward_iff]
  exact h.onward

end Forward
end Stretch

open Stretch (Keeps Forward)

/-! ### The phases of telling -/

theorem emitBodies_keeps (p : State) (b : ItemBuilder) (bodies : List Event.Body) :
    Keeps p (emitBodies p b bodies) := by
  induction bodies generalizing p b with
  | nil => exact .quiet rfl
  | cons body rest ih =>
    refine List.forall_mem_cons.mpr ⟨rfl, ?_⟩
    exact ih (emitBody p b body).state (b.after body)

theorem close_keeps (p : State) : Keeps p (close p) := by
  unfold close
  cases p.builder with
  | none => exact .quiet rfl
  | some b =>
    intro q hq
    obtain hq | hq := List.mem_append.mp hq
    · simp only [List.map_map, List.mem_map] at hq
      obtain ⟨e, -, rfl⟩ := hq
      rfl
    · rw [List.mem_singleton.mp hq]

/-- That phases only move forward, to streaming at most, is a law of steps. -/
theorem forward_law : Stretch.Law fun p s => p.rank ≤ 2 → Forward p s 2 where
  quiet p hp := .quiet (Nat.le_refl p.rank) hp
  failed p f hp := .failed f (Nat.le_refl p.rank) hp
  emitBodies p b bodies hp := (emitBodies_keeps p b bodies).forward hp
  close p hp := (close_keeps p).forward hp
  andThen h hnext hp := (h hp).andThen (Nat.le_refl 2) hnext
  of_start {p q s} h _ hphase hp := by
    obtain hsame | hstreaming := hphase
    · have hrank : q.rank = p.rank := congrArg Phase.rank hsame
      exact (h (hrank ▸ hp)).of_le (Nat.le_of_eq hrank.symm)
    · have hrank : q.rank = 2 := congrArg Phase.rank hstreaming
      exact (h (Nat.le_of_eq hrank)).of_le (hrank ▸ hp)

theorem terminal_keeps (g : Setting) (p : State) : Keeps p (terminal g p) := by
  have henvelope (kind : Envelope) (snapshot : State → Response) :
      Keeps p (envelope kind snapshot p) := by
    exact List.forall_mem_cons.mpr ⟨rfl, List.forall_mem_singleton.mpr rfl⟩
  unfold terminal
  split
  · exact henvelope _ _
  · exact .failed _ rfl
  · exact henvelope _ _

/-! ### The phases of acts -/

/-- The place that an act brings a projection to. -/
def Act.level : Act → Nat
  | .opening => 1
  | .step _ => 2
  | .closing => 3
  | .verdict => 4

theorem Act.level_pos (a : Act) : 1 ≤ a.level := by
  cases a <;> simp [level]

theorem act_forward (g : Setting) {p : State} (a : Act) (hp : p.rank ≤ a.level) :
    Forward p (act g p a) a.level := by
  cases a with
  | opening =>
    have hkeeps : Keeps { p with phase := .opened } (opening g p) :=
      List.forall_mem_cons.mpr
        ⟨rfl, List.forall_mem_cons.mpr ⟨rfl, List.forall_mem_singleton.mpr rfl⟩⟩
    exact (hkeeps.forward (Nat.le_refl 1)).of_le hp
  | step s => exact forward_law.step g p s hp
  | closing => exact ((close_keeps _).forward (Nat.le_refl 3)).of_le hp
  | verdict =>
    exact ((terminal_keeps g p).forward hp).andThen (Nat.le_refl 4) fun q hq =>
      Forward.quiet (q := { q with phase := .done }) hq (Nat.le_refl 4)

/-! ### The phases of a run -/

namespace Attended
variable (g : Setting) (voice : Voice)

/-- All states that some acts pass, in order: after each event, and between two acts. -/
def trail (p : State) : List Act → List State
  | [] => []
  | a :: rest =>
    let t := (act g p a).attended voice
    t.states ++ match t.failure with
      | none => trail t.state rest
      | some _ => []

/-- Acts that follow their order move a projection forward only. -/
theorem trail_onward {p : State} {as : List Act}
    (hordered : as.Pairwise fun a b => a.level ≤ b.level) (hp : ∀ a ∈ as, p.rank ≤ a.level) :
    Onward (p :: trail g voice p as) := by
  induction as generalizing p with
  | nil => exact List.pairwise_singleton ..
  | cons a rest ih =>
    obtain ⟨hlater, hrest⟩ := List.pairwise_cons.mp hordered
    have hact : Stretch.Forward p ((act g p a).attended voice) a.level :=
      (act_forward g a (hp a (List.mem_cons_self ..))).attended
    rw [trail]
    generalize (act g p a).attended voice = t at *
    cases ht : t.failure with
    | some f =>
      rw [List.append_nil]
      exact hact.onward
    | none =>
      have hgo := ih hrest fun b hb => Nat.le_trans hact.below (hlater b hb)
      have hjoined :
          Onward (p :: t.emitted.map Emission.state ++ t.state :: trail g voice t.state rest) :=
        Onward.join hact.onward hgo
      simpa only [Stretch.states, List.append_assoc, List.cons_append, List.nil_append]
        using hjoined

/-- The events of a run are handed out in states of its trail. -/
theorem states_sublist_trail (p : State) (as : List Act) :
    ((run g voice p as).emitted.map Emission.state).Sublist (trail g voice p as) := by
  induction as generalizing p with
  | nil => exact List.nil_sublist _
  | cons a rest ih =>
    rw [run, trail]
    generalize (act g p a).attended voice = t
    cases ht : t.failure with
    | some f =>
      rw [Stretch.andThen_of_fails _ ht, List.append_nil]
      exact List.sublist_append_left ..
    | none =>
      rw [Stretch.andThen_of_ends _ ht, List.map_append]
      exact (List.sublist_append_left ..).append (ih t.state)

theorem run_forward {p : State} {as : List Act} {top : Nat}
    (hordered : as.Pairwise fun a b => a.level ≤ b.level) (hp : ∀ a ∈ as, p.rank ≤ a.level)
    (htop : ∀ a ∈ as, a.level ≤ top) (hbelow : p.rank ≤ top) :
    Stretch.Forward p (run g voice p as) top := by
  induction as generalizing p with
  | nil => exact .quiet (Nat.le_refl p.rank) hbelow
  | cons a rest ih =>
    obtain ⟨hlater, hrest⟩ := List.pairwise_cons.mp hordered
    obtain ⟨hlevel, htop⟩ := List.forall_mem_cons.mp htop
    refine (act_forward g a (hp a (List.mem_cons_self ..))).attended.andThen hlevel fun q hq => ?_
    exact ih hrest (fun b hb => Nat.le_trans hq (hlater b hb)) htop (Nat.le_trans hq hlevel)

theorem acts_ordered (source : List RunStep) :
    (acts source).Pairwise fun a b => a.level ≤ b.level := by
  have hsteps : (source.map Act.step).Pairwise fun a b => a.level ≤ b.level :=
    List.pairwise_map.mpr (List.pairwise_of_forall fun _ _ => Nat.le_refl 2)
  have hends : [Act.closing, .verdict].Pairwise fun a b => a.level ≤ b.level :=
    List.pairwise_pair.mpr (by decide)
  refine List.pairwise_cons.mpr ⟨fun a _ => a.level_pos,
    List.pairwise_append.mpr ⟨hsteps, hends, fun a ha b hb => ?_⟩⟩
  obtain ⟨s, -, rfl⟩ := List.mem_map.mp ha
  obtain rfl | rfl : b = .closing ∨ b = .verdict := by simpa using hb
  all_goals simp [Act.level]

/-- **The phases of a projection** only move forward. -/
theorem project_onward (supply : Supply) (reason : Option Value) (cancelled : Bool)
    (source : List RunStep) :
    let start := State.fresh supply reason cancelled
    Onward (start :: trail g voice start (acts source)) :=
  trail_onward g voice (acts_ordered source) fun _ _ => Nat.zero_le _

/-- A projection that has begun cannot be used again. -/
theorem project_of_begun (supply : Supply) (reason : Option Value) (cancelled : Bool)
    (source : List RunStep) :
    let start := State.fresh supply reason cancelled
    ∀ p ∈ trail g voice start (acts source), ∀ (voice' : Voice) (source' : List RunStep),
      project g voice' p source' = .failed p (.report (.generatorState reused)) := by
  intro start p hp voice' source'
  -- Opening takes no notice of the phase that it finds.
  have honward : Onward ({ start with phase := .opened } :: trail g voice start (acts source)) :=
    trail_onward g voice (p := { start with phase := .opened }) (acts_ordered source)
      fun a _ => a.level_pos
  have hrank : 1 ≤ p.rank := (List.pairwise_cons.mp honward).1 p hp
  have hbegun : p.phase ≠ .idle := by
    intro hidle
    rw [State.rank, hidle] at hrank
    exact absurd hrank (by decide)
  rw [project, if_neg hbegun]

theorem verdict_done {q : State} (hq : q.phase ≠ .done) :
    let t := run g voice q [.verdict]
    (∀ e ∈ t.emitted, e.state.phase ≠ .done) ∧ (t.state.phase = .done ↔ t.failure = none) := by
  intro t
  have ht : t = (act g q .verdict).attended voice := run_single g voice q .verdict
  have hkeeps := terminal_keeps g q
  constructor
  · intro e he
    obtain ⟨e', he', hphase⟩ := Stretch.phase_of_mem_attended (ht ▸ he)
    rw [act, Stretch.emitted_andThen_quiet] at he'
    rw [hphase, hkeeps.emission he']
    exact hq
  · cases hterminal : (terminal g q).failure with
    | some f =>
      rw [act, Stretch.andThen_of_fails _ hterminal] at ht
      have hfinal : t.state.phase = q.phase := ht ▸ hkeeps.final
      have hfails : t.failure = some f := ht ▸ hterminal
      simp [hfinal, hfails, hq]
    | none =>
      rw [act, Stretch.andThen_of_ends _ hterminal] at ht
      have hfinal : t.state.phase = .done := ht ▸ rfl
      have hends : t.failure = none := ht ▸ rfl
      simp [hfinal, hends]

/-- A projection is over only after its verdict has been handed out, and only where it ends
well. -/
theorem project_done (supply : Supply) (reason : Option Value) (cancelled : Bool)
    (source : List RunStep) :
    let whole := project g voice (State.fresh supply reason cancelled) source
    (∀ e ∈ whole.emitted, e.state.phase ≠ .done) ∧
      (whole.state.phase = .done ↔ whole.failure = none) := by
  intro whole
  have hwhole : whole = _ := project_fresh g voice supply reason cancelled source
  have hordered : (unjudged source).Pairwise fun a b => a.level ≤ b.level :=
    (acts_ordered source).sublist (by simp [acts, unjudged, processing])
  have hlevel : ∀ a ∈ unjudged source, a.level ≤ 3 := by
    intro a ha
    cases a with
    | verdict => simp [unjudged, processing] at ha
    | _ => simp [Act.level]
  have hforward : Stretch.Forward (State.fresh supply reason cancelled) _ 3 :=
    run_forward g voice hordered (fun _ _ => Nat.zero_le _) hlevel (Nat.zero_le _)
  generalize run g voice (State.fresh supply reason cancelled) (unjudged source) = t at *
  have hundone : ∀ e ∈ t.emitted, e.state.phase ≠ .done := fun e he =>
    State.not_done_of_rank (hforward.emission he)
  cases ht : t.failure with
  | some f =>
    rw [hwhole, Stretch.andThen_of_fails _ ht]
    exact ⟨hundone, by simp [ht, State.not_done_of_rank hforward.below]⟩
  | none =>
    obtain ⟨hverdict, hdone⟩ := verdict_done g voice (State.not_done_of_rank hforward.below)
    rw [hwhole, Stretch.andThen_of_ends _ ht]
    exact ⟨fun e he => (List.mem_append.mp he).elim (hundone e) (hverdict e), hdone⟩

end Attended

end AgentGateway.Projection
