import AgentGateway.ItemBuilder
import AgentGateway.Run

/-! The event stream of an agent's run.

A projection opens with `response.created` and `response.in_progress`, tells the
life of every output item one after the other, and ends with one terminal event
that carries the whole response. The agent's run is a list of steps: an update, a
failure, or a word from outside that the run is cancelled or cut short.

A projection is computed as a `Stretch`: what was emitted, with the state right
after each event, and the state and failure at its end. Stopping early is taking
the first events of a stretch. -/
namespace AgentGateway

/-- One step of an agent's run. -/
inductive RunStep where
  | update (u : Update)
  | fail (f : Failure)
  /-- The caller asks for the run to stop. -/
  | cancel
  /-- The answer is cut short for a reason; without one it is not. -/
  | incomplete (reason : Option Value)
deriving DecidableEq, Repr

namespace Projection

inductive Phase where
  | idle
  | opened
  | streaming
  | draining
  | done
deriving DecidableEq, Repr

def Phase.name : Phase → String
  | idle => "idle"
  | opened => "open"
  | streaming => "streaming"
  | draining => "draining"
  | done => "done"

/-- How far the source of updates has been used. -/
inductive SourceUse where
  | untouched
  | started
  | over
deriving DecidableEq, Repr

/-- What a projection is made for and does not change. -/
structure Setting where
  request : Request
  kinds : List BuilderKind
  createdAt : Int
  /-- Whether a request to stop is heard. -/
  cancellable : Bool

structure State where
  phase : Phase
  supply : Supply
  usage : Option Usage
  output : List Item
  nextIndex : Int
  builder : Option ItemBuilder
  reason : Option Value
  cancelled : Bool
  previous : Option Update
  source : SourceUse

namespace State

def initial (supply : Supply) : State :=
  { phase := .idle, supply, usage := none, output := [], nextIndex := 0, builder := none
    reason := none, cancelled := false, previous := none, source := .untouched }

/-- The response as it stands. -/
def snapshot (p : State) (g : Setting) (status : ResponseStatus) : Response :=
  Response.build g.request p.supply.ids status p.output p.usage g.createdAt

end State

/-! ### Stretches -/

/-- An event with the state right after it. -/
structure Emission where
  event : Event
  state : State

structure Stretch where
  emitted : List Emission
  state : State
  failure : Option Failure

namespace Stretch

def quiet (p : State) : Stretch := ⟨[], p, none⟩

def failed (p : State) (f : Failure) : Stretch := ⟨[], p, some f⟩

/-- Go on from the end of a stretch, unless it failed. -/
def andThen (s : Stretch) (next : State → Stretch) : Stretch :=
  match s.failure with
  | some _ => s
  | none =>
    let t := next s.state
    { t with emitted := s.emitted ++ t.emitted }

def events (s : Stretch) : List Event := s.emitted.map Emission.event

/-- What a consumer has who stops after `n` events, but not before the first. -/
def take (s : Stretch) (n : Nat) : Stretch :=
  match s.emitted[n - 1]? with
  | some last => ⟨s.emitted.take (n - 1 + 1), last.state, none⟩
  | none => s

theorem quiet_andThen (p : State) (next : State → Stretch) : (quiet p).andThen next = next p := rfl

theorem andThen_assoc (s : Stretch) (f g : State → Stretch) :
    (s.andThen f).andThen g = s.andThen fun p => (f p).andThen g := by
  obtain ⟨emitted, state, failure⟩ := s
  cases failure with
  | some _ => rfl
  | none =>
    simp only [andThen]
    cases h : (f state).failure <;> simp [h]

end Stretch

/-! ### Items -/

/-- The finished items that some events carry. -/
def doneItems (events : List Event) : List Item := events.filterMap Event.doneItem?

/-- Emit one event of the open builder. -/
def emitBody (p : State) (b : ItemBuilder) (body : Event.Body) : Emission :=
  let (event, supply) := p.supply.emit body
  ⟨event, { p with
    supply
    builder := some (b.after body)
    output := p.output ++ event.doneItem?.toList }⟩

/-- Emit the events of the open builder one by one. -/
def emitBodies (p : State) (b : ItemBuilder) : List Event.Body → Stretch
  | [] => .quiet { p with builder := some b }
  | body :: rest =>
    let e := emitBody p b body
    let s := emitBodies e.state (b.after body) rest
    { s with emitted := e :: s.emitted }

/-- Close the open builder. Its last events are made at once and handed out after. -/
def close (p : State) : Stretch :=
  match p.builder with
  | none => .quiet p
  | some b =>
    let (events, supply) := p.supply.emitAll b.completion
    let p := { p with supply, builder := none, output := p.output ++ doneItems events }
    ⟨events.map fun e => ⟨e, p⟩, p, none⟩

/-- Open a builder for a content, of the first kind that supports it. -/
def openBuilder (g : Setting) (p : State) (c : Content) : Option (ItemBuilder × State) :=
  (g.kinds.find? fun k => k.supports c).map fun k =>
    let b := ItemBuilder.new k p.nextIndex
    (b, { p with builder := some b, nextIndex := p.nextIndex + 1, phase := .streaming })

/-- Let a builder tell a content that can be spelled. -/
def tell (p : State) (b : ItemBuilder) (c : Content) : Stretch :=
  match b.start c with
  | .error r => .failed p (.report r)
  | .ok (b, _) =>
    match b.unfold p.supply c with
    | (.ok (b, bodies), supply) => emitBodies { p with supply } b bodies
    | (.error f, supply) => .failed { p with supply, builder := some b } f

/-- Let a new builder tell its first content. One that cannot be spelled ends the run: a part is made
before its item's identifier is drawn, a call or a result after that. -/
def tellFirst (p : State) (b : ItemBuilder) (c : Content) : Stretch :=
  match c.limit? with
  | none => tell p b c
  | some l =>
    let p := { p with builder := some { b with completed := true } }
    if c.isImage then .failed p (.ofLimit l)
    else match p.supply.draw (ItemBuilder.drawId b.kind) with
      | (.ok _, supply) => .failed { p with supply } (.ofLimit l)
      | (.error f, supply) => .failed { p with supply } f

/-- Whether the open builder can go on with a content. -/
def continues (p : State) (c : Content) : Option ItemBuilder :=
  p.builder.filter fun b => !b.completed && b.kind.supports c

/-- Project one content. Token counts are added up, a content that no kind
supports is dropped after closing what is open. -/
def content (g : Setting) (p : State) (c : Content) : Stretch :=
  match c.body with
  | .usage details => .quiet { p with usage := Usage.combine p.usage details }
  | _ =>
    match continues p c with
    | some b => tell p b c
    | none =>
      (close p).andThen fun p =>
        match openBuilder g p c with
        | some (b, p) => tellFirst p b c
        | none => .quiet p

def contents (g : Setting) (p : State) : List Content → Stretch
  | [] => .quiet p
  | c :: rest => (content g p c).andThen fun p => contents g p rest

/-! ### Updates -/

/-- Project one update: close the open item where a new message begins, then go
through the contents. -/
def update (g : Setting) (p : State) (u : Update) : Stretch :=
  if g.cancellable && p.cancelled then .failed p .cancelled
  else
    let closed := if Update.isNewMessage (some u) p.previous then close p else .quiet p
    closed.andThen fun p => contents g { p with previous := some (u.carry p.previous) } u.contents

def step (g : Setting) (p : State) : RunStep → Stretch
  | .update u => update g p u
  | .fail f => .failed { p with source := .over } f.leavingStream
  | .cancel => .quiet { p with cancelled := true }
  | .incomplete reason => .quiet { p with reason }

def steps (g : Setting) (p : State) : List RunStep → Stretch
  | [] => .quiet p
  | s :: rest => (step g p s).andThen fun p => steps g p rest

/-! ### The whole run -/

/-- Emit an envelope event with a snapshot of the response. -/
def envelope (kind : Envelope) (snapshot : State → Response) (p : State) : Stretch :=
  let (event, supply) := p.supply.emit (.envelope kind (snapshot p))
  let p := { p with supply }
  ⟨[⟨event, p⟩], p, none⟩

def opening (g : Setting) (p : State) : Stretch :=
  (envelope .created (·.snapshot g .inProgress) { p with phase := .opened }).andThen fun p =>
    (envelope .inProgress (·.snapshot g .inProgress) p).andThen fun p =>
      .quiet { p with source := .started }

/-- Everything up to the point where the source has no more updates. -/
def processed (g : Setting) (p : State) (source : List RunStep) : Stretch :=
  (opening g p).andThen fun p => steps g p source

/-- The terminal event: the answer is complete, or cut short for a reason that can be told. -/
def terminal (g : Setting) (p : State) : Stretch :=
  match p.reason.map fun v => Response.readIncomplete (.object [("reason", v)]) with
  | some (.ok details) =>
    envelope .incomplete (fun p =>
      { p.snapshot g .incomplete with incompleteDetails := some details }) p
  | some (.faulty faults) => .failed p (.invalid faults)
  | none => envelope .completed (·.snapshot g .completed) p

def ending (g : Setting) (p : State) : Stretch :=
  (close { p with phase := .draining, source := .over }).andThen fun p =>
    (terminal g p).andThen fun p => .quiet { p with phase := .done }

def fromIdle (g : Setting) (p : State) (source : List RunStep) : Stretch :=
  (processed g p source).andThen (ending g)

def reused : String := "A stream projector can only be used once."

/-- Project a run. A state that has been used is refused. -/
def project (g : Setting) (p : State) (source : List RunStep) : Stretch :=
  if p.phase = .idle then fromIdle g p source
  else .failed p (.report (.generatorState reused))

/-- Project a run, unless no snapshot can be made for its request (`Request.limit?`): the first event
has taken its number when that is found out. Everything else that is said of projections is said of
`project`, for requests within the limit. -/
def launch (g : Setting) (p : State) (source : List RunStep) : Stretch :=
  match g.request.limit?, p.phase with
  | some l, .idle =>
    .failed { p with phase := .opened, supply := { p.supply with number := p.supply.number + 1 } }
      (.ofLimit l)
  | _, _ => project g p source

/-- Whether the source has ended or been closed by the time a projection is over. A
source that cannot be closed has to end by itself. -/
def released (p : State) (closable : Bool) : Bool :=
  match p.source with
  | .untouched => false
  | .started => closable
  | .over => true

theorem steps_append (g : Setting) (p : State) (a b : List RunStep) :
    steps g p (a ++ b) = (steps g p a).andThen fun p => steps g p b := by
  induction a generalizing p with
  | nil => rfl
  | cons s rest ih => simp only [List.cons_append, steps, Stretch.andThen_assoc, ih]

end Projection
end AgentGateway
