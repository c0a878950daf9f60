import AgentGateway.Event.Stamp
import AgentGateway.Projection

/-! Projections that start from values as they are given.

The number of the first event and the time of the response are looked at when the first
event is made: first the sequence moves on, then the response takes its time, then the
event takes its number. A sequence whose first number is whole has only whole numbers
after it, so a projection that makes its first event numbers all of them. -/
namespace AgentGateway

namespace Sequence

/-- The sequence after some more numbers. A sequence that cannot move on stays. -/
def ahead (s : Sequence) (n : Nat) : Sequence :=
  match s.current with
  | .float d => ⟨.float (d.ahead n)⟩
  | v => match v.count?, n with
    | some m, n + 1 => ⟨.int (m + (n + 1))⟩
    | _, _ => s

/-- The whole number that an event takes from the head of a sequence, or zero. -/
def whole (s : Sequence) : Int :=
  match Event.checkNumber s.current with
  | .ok n => n
  | .faulty _ => 0

theorem ahead_int (m : Int) (n : Nat) : ahead ⟨.int m⟩ n = ⟨.int (m + n)⟩ := by
  cases n <;> simp [ahead, Value.count?]

theorem whole_int (m : Int) : whole ⟨.int m⟩ = m := rfl

end Sequence

namespace Projection

/-- The events of a stretch with the numbers of a sequence in place of counts from zero. -/
def Stretch.renumber (s : Stretch) (q : Sequence) : Stretch :=
  { s with emitted := s.emitted.map fun e =>
      { e with event := { e.event with number := (q.ahead e.event.number.toNat).whole } } }

/-- The sequence as a state has left it that counts from zero. -/
def State.sequence (p : State) (q : Sequence) : Sequence := q.ahead p.supply.number.toNat

/-- Make the first event's number and the response's time, or say what is wrong. -/
def open? (q : Sequence) (createdAt : Checked Int) : Except Failure Int := do
  let (number, _) ← q.next
  match createdAt, Event.checkNumber number with
  | .faulty faults, _ | .ok _, .faulty faults => .error (.invalid faults)
  | .ok n, .ok _ => .ok n

/-- Project a run from a state that counts from zero, with the numbers of a sequence. -/
def start (request : Request) (kinds : List BuilderKind) (cancellable : Bool)
    (createdAt : Checked Int) (q : Sequence) (p : State) (source : List RunStep) : Stretch :=
  match q.next, request.limit? with
  | .ok _, some l =>
    -- The tools are copied before the time of the response is looked at.
    .failed { p with phase := .opened, supply := { p.supply with number := p.supply.number + 1 } }
      (.ofLimit l)
  | _, _ => match open? q createdAt with
    | .error f => .failed { p with phase := .opened } f
    | .ok n => (project ⟨request, kinds, n, cancellable⟩ p source).renumber q

end Projection
end AgentGateway
