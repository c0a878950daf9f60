import AgentGateway.Proofs.Projection.Phases

/-! A projection between its source and its consumer.

A projection asks a source for one update after the other and hands out what it tells, one event
at a time, to a consumer who may leave after any of them. Whatever happens once the source has
been asked, the source is closed on the way out, if it can be, and only then the verdict is told.

An `Exchange` is what came of this: the contacts with the source, and what the consumer was handed.
Nothing is known of a source but how it answers and how it is closed, so an exchange may go on for
ever; it is computed with so many requests at most. Over a list of steps it hands out the events
of the projection (`exchange_script`). -/
namespace AgentGateway

namespace Projection

/-! ### Consumers -/

/-- How a part of a projection is left. -/
inductive Exit where
  | through
  | raised (f : Failure)
  /-- The consumer has closed the projection. -/
  | left
deriving DecidableEq, Repr

def Exit.ofFailure? : Option Failure → Exit
  | none => through
  | some f => raised f

/-- What a consumer was handed, how many more events it takes, if not all, and how that ended. -/
structure Handed where
  emitted : List Emission
  state : State
  demand : Option Nat
  exit : Exit

/-- Hand out the events of a stretch, up to the last one that the consumer takes. -/
def hand (demand : Option Nat) (s : Stretch) : Handed :=
  match demand with
  | none => ⟨s.emitted, s.state, none, .ofFailure? s.failure⟩
  | some n => ⟨(s.take n).emitted, (s.take n).state, some (n - s.emitted.length),
      if n - 1 < s.emitted.length then .left else .ofFailure? s.failure⟩

def Handed.andThen (x : Handed) (next : State → Option Nat → Handed) : Handed :=
  match x.exit with
  | .through =>
    let y := next x.state x.demand
    { y with emitted := x.emitted ++ y.emitted }
  | _ => x

namespace Stretch
variable {s : Stretch} {n : Nat}

theorem take_of_lt (h : n - 1 < s.emitted.length) :
    s.take n = ⟨s.emitted.take (n - 1 + 1), s.emitted[n - 1].state, none⟩ := by
  rw [take, List.getElem?_eq_getElem h]

theorem take_of_le (h : s.emitted.length ≤ n - 1) : s.take n = s := by
  rw [take, List.getElem?_eq_none h]

end Stretch

section
variable {s : Stretch} {n : Nat}

/-- A consumer leaves on being handed the last event that he takes. -/
theorem hand_of_lt (h : n - 1 < s.emitted.length) :
    hand (some n) s = ⟨s.emitted.take (n - 1 + 1), s.emitted[n - 1].state,
      some (n - s.emitted.length), .left⟩ := by
  rw [hand, Stretch.take_of_lt h, if_pos h]

/-- A consumer who takes more than there is stays. -/
theorem hand_of_le (h : s.emitted.length ≤ n - 1) :
    hand (some n) s =
      ⟨s.emitted, s.state, some (n - s.emitted.length), .ofFailure? s.failure⟩ := by
  rw [hand, Stretch.take_of_le h, if_neg (Nat.not_lt.mpr h)]

/-- Of two parts a consumer is handed all of the first, and then of the second what is left of
his demand. -/
theorem hand_append {front : List Emission} (t : Stretch) (h : front.length ≤ n - 1) :
    hand (some n) { t with emitted := front ++ t.emitted } =
      { hand (some (n - front.length)) t with
        emitted := front ++ (hand (some (n - front.length)) t).emitted } := by
  have hlength : (front ++ t.emitted).length = front.length + t.emitted.length :=
    List.length_append
  have hdemand : n - (front ++ t.emitted).length = n - front.length - t.emitted.length := by
    omega
  by_cases ht : n - front.length - 1 < t.emitted.length
  · have hall : n - 1 < (front ++ t.emitted).length := by omega
    have hlast : n - 1 - front.length = n - front.length - 1 := by omega
    rw [hand_of_lt ht, hand_of_lt hall]
    simp only [List.getElem_append_right h, hlast, hdemand, Handed.mk.injEq, and_true]
    rw [show n - 1 + 1 = front.length + (n - front.length - 1 + 1) by omega,
      List.take_length_add_append]
  · have hall : (front ++ t.emitted).length ≤ n - 1 := by omega
    rw [hand_of_le (Nat.le_of_not_lt ht), hand_of_le hall, hdemand]

end

/-- A consumer who stays is handed what comes next as well. -/
theorem hand_andThen (demand : Option Nat) (s : Stretch) (next : State → Stretch) :
    hand demand (s.andThen next) = (hand demand s).andThen fun p d => hand d (next p) := by
  cases hs : s.failure with
  | some f =>
    rw [Stretch.andThen_of_fails next hs]
    cases demand with
    | none => simp only [hand, Handed.andThen, hs, Exit.ofFailure?]
    | some n =>
      by_cases hn : n - 1 < s.emitted.length
      · rw [hand_of_lt hn, Handed.andThen]
      · rw [hand_of_le (Nat.le_of_not_lt hn), hs, Handed.andThen, Exit.ofFailure?]
  | none =>
    rw [Stretch.andThen_of_ends next hs]
    cases demand with
    | none => simp only [hand, Handed.andThen, hs, Exit.ofFailure?]
    | some n =>
      by_cases hn : n - 1 < s.emitted.length
      · generalize next s.state = t
        have hlength : (s.emitted ++ t.emitted).length = s.emitted.length + t.emitted.length :=
          List.length_append
        have hlong : n - 1 < (s.emitted ++ t.emitted).length := by omega
        have hnone : n - (s.emitted ++ t.emitted).length = n - s.emitted.length := by omega
        rw [hand_of_lt hn, hand_of_lt (s := ⟨s.emitted ++ t.emitted, _, _⟩) hlong]
        simp only [Handed.andThen, hnone, List.take_append_of_le_length hn,
          List.getElem_append_left hn]
      · rw [hand_append _ (Nat.le_of_not_lt hn), hand_of_le (Nat.le_of_not_lt hn), hs,
          Handed.andThen, Exit.ofFailure?]

/-! ### Sources -/

/-- What a source answers when it is asked for an update. -/
inductive Reply where
  | update (u : Update)
  | failed (f : Failure)
  | ended
deriving DecidableEq, Repr

/-- A source of updates that moves from state to state. -/
structure Source (σ : Type) where
  /-- What is said from outside while the source is asked, its answer, and its next state. -/
  ask : σ → List Word × Reply × σ
  /-- How the source is closed, if it can be; that may fail. -/
  close? : Option (σ → Option Failure)

inductive Contact where
  | asked (r : Reply)
  | closed
deriving DecidableEq, Repr

structure Exchange (σ : Type) extends Handed where
  contacts : List Contact
  source : σ

namespace Exchange
variable {σ : Type}

/-- Hand out the events of a stretch, without a contact. -/
def handing (d : Option Nat) (x : σ) (s : Stretch) : Exchange σ := ⟨hand d s, [], x⟩

def andThen (e : Exchange σ) (next : State → Option Nat → σ → Option (Exchange σ)) :
    Option (Exchange σ) :=
  match e.exit with
  | .through => (next e.state e.demand e.source).map fun e' =>
      { e' with emitted := e.emitted ++ e'.emitted, contacts := e.contacts ++ e'.contacts }
  | _ => some e

/-- Close the source, if it can be. -/
def release (src : Source σ) (e : Exchange σ) : Exchange σ :=
  match src.close? with
  | none => e
  | some close => { e with
      contacts := e.contacts ++ [.closed]
      exit := ((close e.source).map Exit.raised).getD e.exit }

end Exchange

open Exchange (handing)

section
variable {σ : Type} (g : Setting) (voice : Voice) (src : Source σ)

/-- An act that a reply leads to. -/
def Reply.act : Reply → Act
  | update u => .step (.update u)
  | failed f => .step (.fail f)
  | ended => .closing

/-- Ask for updates and tell them one after the other, with so many requests at most. -/
def converse : Nat → State → Option Nat → σ → Option (Exchange σ)
  | 0, _, _, _ => none
  | fuel + 1, p, d, x =>
    let (words, reply, x) := src.ask x
    let told := handing d x ((act g (p.hear words) reply.act).attended voice)
    let here := { told with contacts := [.asked reply] }
    match reply with
    | .update _ => here.andThen (converse fuel)
    | _ => some here

/-- A projection from its source to its consumer. One that is closed before its first event has
done nothing. -/
def exchange (fuel : Nat) (p : State) (d : Option Nat) (x : σ) : Option (Exchange σ) :=
  if d = some 0 then some ⟨⟨[], p, d, .left⟩, [], x⟩
  else if p.phase = .idle then
    (handing d x ((act g p .opening).attended voice)).andThen fun p d x =>
      ((converse g voice src fuel p d x).map (Exchange.release src)).bind fun e =>
        e.andThen fun p d x => some (handing d x ((act g p .verdict).attended voice))
  else some (handing d x (.failed p (.report (.generatorState reused))))

end

/-- The steps of a run as a source. -/
def script (closable : Bool) : Source (List RunStep) where
  ask := ask
  close? := if closable then some fun _ => none else none
where
  /-- Words are said before the next answer. -/
  ask : List RunStep → List Word × Reply × List RunStep
    | [] => ([], .ended, [])
    | .update u :: rest => ([], .update u, rest)
    | .fail f :: rest => ([], .failed f, rest)
    | .cancel :: rest => let (ws, r, rest) := ask rest; (.cancel :: ws, r, rest)
    | .incomplete reason :: rest =>
      let (ws, r, rest) := ask rest
      (.incomplete reason :: ws, r, rest)

/-! ### Exchanges with a script -/

end Projection

/-- A word as a step of a run. -/
def RunStep.ofWord : Word → RunStep
  | .cancel => .cancel
  | .incomplete reason => .incomplete reason

namespace Projection

namespace Exchange
variable {σ : Type}

theorem andThen_handed {e : Exchange σ} (next : State → Option Nat → σ → Option (Exchange σ))
    {next' : State → Option Nat → Handed}
    (h : e.exit = .through → ∃ e', next e.state e.demand e.source = some e' ∧
      e'.toHanded = next' e.state e.demand) :
    ∃ e', e.andThen next = some e' ∧ e'.toHanded = e.toHanded.andThen next' := by
  unfold andThen Handed.andThen
  cases hexit : e.exit with
  | through =>
    obtain ⟨e', hnext, hhanded⟩ := h hexit
    refine ⟨_, by rw [hnext]; rfl, ?_⟩
    simp only [← hhanded]
  | raised | left => exact ⟨e, rfl, rfl⟩

/-- Closing a source that closes well is nothing that a consumer is handed. -/
theorem handed_release (closable : Bool) (e : Exchange (List RunStep)) :
    (e.release (script closable)).toHanded = e.toHanded := by
  cases closable <;> rfl

end Exchange

namespace Attended
variable (g : Setting) (voice : Voice) (closable : Bool)

/-- A word among the steps is heard before the source answers. -/
theorem run_word (p : State) (w : Word) (rest : List Act) :
    run g voice p (.step (.ofWord w) :: rest) = run g voice (p.hear [w]) rest := by
  have hact : act g p (.step (.ofWord w)) = .quiet (p.hear [w]) := by
    cases w <;> simp [act, step, RunStep.ofWord, State.hear, Word.latest]
  rw [run, hact, Stretch.attended_quiet]
  rfl

theorem converse_word (p : State) (d : Option Nat) (w : Word) (rest : List RunStep) (fuel : Nat) :
    converse g voice (script closable) fuel p d (.ofWord w :: rest) =
      converse g voice (script closable) fuel (p.hear [w]) d rest := by
  have hask : script.ask (.ofWord w :: rest) = (w :: (script.ask rest).1, (script.ask rest).2) := by
    cases w <;> rfl
  have hhear : p.hear (w :: (script.ask rest).1) = (p.hear [w]).hear (script.ask rest).1 :=
    p.hear_append [w] _
  cases fuel with
  | zero => rfl
  | succ fuel =>
    simp only [converse, script, hask]
    rw [hhear]

/-- An update is told before the source is asked again. -/
theorem converse_update (p : State) (d : Option Nat) (u : Update) (rest : List RunStep)
    (fuel : Nat) :
    converse g voice (script closable) (fuel + 1) p d (.update u :: rest) =
      Exchange.andThen
        { Exchange.handing d rest ((act g p (.step (.update u))).attended voice) with
          contacts := [.asked (.update u)] }
        (converse g voice (script closable) fuel) := by
  show Exchange.andThen { Exchange.handing d rest ((act g (p.hear []) _).attended voice) with
    contacts := _ } _ = _
  rw [State.hear_nil]
  rfl

theorem converse_script (source : List RunStep) {fuel : Nat} (hfuel : source.length < fuel)
    (p : State) (d : Option Nat) :
    ∃ e, converse g voice (script closable) fuel p d source = some e ∧
      e.toHanded = hand d (run g voice p (source.map .step ++ [.closing])) := by
  induction source generalizing p d fuel with
  | nil =>
    obtain _ | fuel := fuel
    · exact absurd hfuel (Nat.not_lt_zero _)
    · refine ⟨_, rfl, ?_⟩
      rw [List.map_nil, List.nil_append, run_single]
      show hand d ((act g (p.hear []) .closing).attended voice) = _
      rw [State.hear_nil]
  | cons s rest ih =>
    have hword (w : Word) (hs : s = .ofWord w) :
        ∃ e, converse g voice (script closable) fuel p d (s :: rest) = some e ∧
          e.toHanded = hand d (run g voice p ((s :: rest).map .step ++ [.closing])) := by
      subst hs
      rw [converse_word, List.map_cons, List.cons_append, run_word]
      exact ih (Nat.lt_of_succ_lt hfuel) _ d
    obtain _ | fuel := fuel
    · exact absurd hfuel (Nat.not_lt_zero _)
    cases s with
    | cancel => exact hword .cancel rfl
    | incomplete reason => exact hword (.incomplete reason) rfl
    | fail f =>
      refine ⟨_, rfl, ?_⟩
      show hand d ((act g (p.hear []) (.step (.fail f))).attended voice) = _
      rw [State.hear_nil, List.map_cons, List.cons_append, run, Stretch.andThen_of_fails _ rfl]
    | update u =>
      rw [converse_update, List.map_cons, List.cons_append, run, hand_andThen]
      exact Exchange.andThen_handed _ fun _ => ih (Nat.lt_of_succ_lt_succ hfuel) _ _

/-- **What a consumer is handed of a run.** Over a list of steps an exchange is over after one
request for each update and one more, and hands out the events of the projection. -/
theorem exchange_script (p : State) {d : Option Nat} (hd : d ≠ some 0) (source : List RunStep)
    {fuel : Nat} (hfuel : source.length < fuel) :
    ∃ e, exchange g voice (script closable) fuel p d source = some e ∧
      e.toHanded = hand d (project g voice p source) := by
  unfold exchange project
  rw [if_neg hd]
  split
  next hidle =>
    have hacts : acts source = .opening :: ((source.map .step ++ [.closing]) ++ [.verdict]) := by
      simp [acts]
    rw [hacts, run, hand_andThen]
    refine Exchange.andThen_handed _ fun _ => ?_
    obtain ⟨e, he, hhanded⟩ := converse_script g voice closable source hfuel
      (Exchange.handing d source ((act g p .opening).attended voice)).state
      (Exchange.handing d source ((act g p .opening).attended voice)).demand
    let judge (p : State) (d : Option Nat) (x : List RunStep) : Option (Exchange _) :=
      some (Exchange.handing d x ((act g p .verdict).attended voice))
    show ∃ e', ((converse g voice (script closable) fuel _ _ source).map _).bind
      (Exchange.andThen · judge) = some e' ∧ _
    rw [he, run_append, hand_andThen, ← hhanded, ← e.handed_release closable]
    refine Exchange.andThen_handed judge fun _ => ⟨_, rfl, ?_⟩
    rw [run_single]
    rfl
  next hused => exact ⟨_, rfl, rfl⟩

end Attended

end Projection
end AgentGateway
