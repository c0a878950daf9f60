import AgentGateway.Proofs.Projection.Lifecycle

/-! A builder under calls, one after the other.

A caller asks a builder whether it supports what is offered, hands it contents and completes it,
and takes all events of a content before the next call.
-/
namespace AgentGateway

namespace ItemBuilder

/-! ### All events of a cursor -/

/-- How much is left of a cursor: one that is fresh may still unfold to any number of events. -/
def Cursor.rank : Cursor → Nat × Nat
  | .fresh _ => (1, 0)
  | .pending bodies => (0, bodies.length)

theorem rank_pullPending {b : ItemBuilder} {s : Supply} {bodies : List Event.Body} {e : Event}
    (he : (b.pullPending s bodies).event = some e) :
    Prod.Lex (· < ·) (· < ·) (b.pullPending s bodies).cursor.rank (Cursor.pending bodies).rank := by
  cases bodies with
  | nil => cases he
  | cons body rest => exact .right 0 (Nat.lt_succ_self rest.length)

theorem rank_pull {b : ItemBuilder} {s : Supply} {c : Cursor} {p : Pulled} {e : Event}
    (h : b.pull s c = .ok p) (he : p.event = some e) :
    Prod.Lex (· < ·) (· < ·) p.cursor.rank c.rank := by
  cases c with
  | pending bodies =>
    obtain rfl := Except.ok.inj h
    exact rank_pullPending he
  | fresh content =>
    simp only [pull] at h
    split at h
    · rename_i b' bodies s' _
      obtain rfl := Except.ok.inj h
      cases bodies with
      | nil => cases he
      | cons body rest => exact .left _ _ Nat.zero_lt_one
    · cases h

/-- What pulling gave until nothing was left, or until it failed. -/
structure Exhausted where
  events : List Event
  failure : Option Failure
  builder : ItemBuilder
  supply : Supply

/-- An event in front of what else is pulled. -/
def Exhausted.after (e : Event) (x : Exhausted) : Exhausted := { x with events := e :: x.events }

/-- Pull events until none is left. -/
def exhaust (b : ItemBuilder) (s : Supply) (c : Cursor) : Exhausted :=
  match _h : b.pull s c with
  | .error (f, s) => ⟨[], some f, b, s⟩
  | .ok p =>
    match _he : p.event with
    | none => ⟨[], none, p.builder, p.supply⟩
    | some e => .after e (exhaust p.builder p.supply p.cursor)
termination_by c.rank
decreasing_by exact rank_pull _h _he

theorem exhaust_eq (b : ItemBuilder) (s : Supply) (c : Cursor) :
    b.exhaust s c = match b.pull s c with
      | .error (f, s) => ⟨[], some f, b, s⟩
      | .ok p => p.event.elim ⟨[], none, p.builder, p.supply⟩ fun e =>
        .after e (p.builder.exhaust p.supply p.cursor) := by
  rw [exhaust]
  split
  · rename_i h
    rw [h]
  · rename_i p h
    rw [h]
    show _ = p.event.elim _ _
    split
    · rename_i he
      rw [he]
      rfl
    · rename_i he
      rw [he]
      rfl

theorem exhaust_pending (b : ItemBuilder) (s : Supply) (bodies : List Event.Body) :
    b.exhaust s (.pending bodies) =
      ⟨(s.emitAll bodies).1, none, bodies.foldl after b, (s.emitAll bodies).2⟩ := by
  induction bodies generalizing b s with
  | nil =>
    rw [exhaust_eq]
    rfl
  | cons body rest ih =>
    rw [exhaust_eq]
    show Exhausted.after _ ((b.after body).exhaust (s.emit body).2 (.pending rest)) = _
    rw [ih]
    rfl

/-- A fresh cursor is used up as what it unfolds to. -/
theorem exhaust_fresh (b : ItemBuilder) (s : Supply) (c : Content) :
    b.exhaust s (.fresh c) = match b.unfold s c with
      | (.ok (b, bodies), s) => b.exhaust s (.pending bodies)
      | (.error f, s) => ⟨[], some f, b, s⟩ := by
  rw [exhaust_eq, pull]
  rcases b.unfold s c with ⟨f | ⟨b', bodies⟩, s'⟩
  · rfl
  · show _ = b'.exhaust s' (.pending bodies)
    rw [exhaust_eq]
    rfl

/-! ### Calls -/

/-- What a caller may hand to a builder: a content, or anything else, reported by its name. -/
inductive Offer where
  | content (c : Content)
  | other (name : String)

namespace Offer

def name : Offer → String
  | content c => c.kindName
  | other name => name

def isSupported (k : BuilderKind) : Offer → Bool
  | content c => k.supports c
  | other _ => false

end Offer

inductive Call where
  | supports (o : Offer)
  | process (o : Offer)
  | complete

/-- What a call gives to a caller who takes all its events. -/
inductive Answer where
  | told (supported : Bool)
  | refused (r : Report)
  | gave (events : List Event) (failure : Option Failure)

/-- A builder with what it draws from. -/
structure Bench where
  builder : ItemBuilder
  supply : Supply

namespace Bench

def new (k : BuilderKind) (index : Int) (supply : Supply) : Bench := ⟨.new k index, supply⟩

/-- Hand an offer to the builder and take all events that come of it. -/
def process (d : Bench) : Offer → Answer × Bench
  | .content c => match d.builder.start c with
    | .error r => (.refused r, d)
    | .ok (b, cursor) =>
      let x := b.exhaust d.supply cursor
      (.gave x.events x.failure, ⟨x.builder, x.supply⟩)
  | .other name => match d.builder.accept false name with
    | .error r => (.refused r, d)
    | .ok () => (.gave [] none, d)

def complete (d : Bench) : Answer × Bench :=
  let (events, supply) := d.supply.emitAll d.builder.completion
  (.gave events none, ⟨d.builder.complete, supply⟩)

def answer (d : Bench) : Call → Answer × Bench
  | .supports o => (.told (o.isSupported d.builder.kind), d)
  | .process o => d.process o
  | .complete => d.complete

/-- A bench after some calls. -/
def after (d : Bench) : List Call → Bench
  | [] => d
  | call :: rest => (d.answer call).2.after rest

/-- Some calls, each with what it gives. -/
def history (d : Bench) : List Call → List (Call × Answer)
  | [] => []
  | call :: rest => (call, (d.answer call).1) :: (d.answer call).2.history rest

end Bench

/-- The events that a call gives. -/
def Answer.events : Answer → List Event
  | .gave events _ => events
  | _ => []

/-- The content that a call has processed: what was handed over and did not fail. -/
def processed? : Call × Answer → Option Content
  | (.process (.content c), .gave _ none) => some c
  | _ => none

/-- What some calls tell, without the numbers. -/
def toldBy (calls : List (Call × Answer)) : List Event.Body :=
  calls.flatMap fun e => e.2.events.map Event.body

/-- The contents that some calls have processed. -/
def processedBy (calls : List (Call × Answer)) : List Content := calls.filterMap processed?

/-! ### One call -/

section
variable {b : ItemBuilder} {o : Offer} {c : Content} {r : Report}

/-- Why an offer is refused: a builder that is complete takes nothing, another only what it
supports. -/
def refusal? (b : ItemBuilder) (o : Offer) : Option Report :=
  if b.completed then some (.generatorState Report.completedGenerator)
  else if o.isSupported b.kind then none
  else some (.unsupportedContent b.kind.reportName o.name)

/-- A builder that has taken a content. All but one of texts are complete with it. -/
def taking (b : ItemBuilder) : ItemBuilder := { b with completed := b.kind != BuilderKind.text }

theorem accept_eq (b : ItemBuilder) (o : Offer) :
    b.accept (o.isSupported b.kind) o.name =
      match b.refusal? o with
      | some r => .error r
      | none => .ok () := by
  unfold accept refusal?
  by_cases hcompleted : b.completed = true
  · simp [hcompleted]
  · by_cases hsupported : o.isSupported b.kind = true <;> simp [hcompleted, hsupported]

theorem start_eq (b : ItemBuilder) (c : Content) :
    b.start c =
      match b.refusal? (.content c) with
      | some r => .error r
      | none => .ok (b.taking, .fresh c) := by
  have haccept : b.accept (b.kind.supports c) c.kindName = _ := accept_eq b (.content c)
  rw [start, haccept]
  cases b.refusal? (.content c) <;> rfl

theorem not_completed_of_accepted (h : b.refusal? o = none) :
    b.completed = false ∧ ∃ c, o = .content c ∧ b.kind.supports c = true := by
  unfold refusal? at h
  by_cases hcompleted : b.completed = true
  · simp [hcompleted] at h
  · by_cases hsupported : o.isSupported b.kind = true
    · cases o with
      | content c => exact ⟨by simpa using hcompleted, c, rfl, hsupported⟩
      | other name => cases hsupported
    · simp [hcompleted, hsupported] at h

end

namespace Bench
variable {d : Bench}

/-- An offer that is refused leaves everything as it is. -/
theorem process_of_refusal {o : Offer} {r : Report} (h : d.builder.refusal? o = some r) :
    d.process o = (.refused r, d) := by
  cases o with
  | content c => simp only [process, start_eq, h]
  | other name =>
    have haccept := accept_eq d.builder (.other name)
    rw [h] at haccept
    show (match d.builder.accept false name with
      | .error r => (Answer.refused r, d)
      | .ok () => (.gave [] none, d)) = _
    rw [show d.builder.accept false name = .error r from haccept]

/-- What is told of a content that is not refused is what its builder unfolds. -/
theorem process_of_accepted {c : Content} (h : d.builder.refusal? (.content c) = none) :
    d.process (.content c) =
      match d.builder.taking.unfold d.supply c with
      | (.ok (b, bodies), supply) =>
        (.gave (supply.emitAll bodies).1 none,
          ⟨bodies.foldl ItemBuilder.after b, (supply.emitAll bodies).2⟩)
      | (.error f, supply) => (.gave [] (some f), ⟨d.builder.taking, supply⟩) := by
  simp only [process, start_eq, h, exhaust_fresh, exhaust_pending]
  rcases d.builder.taking.unfold d.supply c with ⟨f | ⟨b, bodies⟩, supply⟩ <;> rfl

end Bench

end ItemBuilder
end AgentGateway
