import AgentGateway.Failure

/-! The numbers that the events of a stream are given.

They are counted by ones from a start. A start should be a whole number; one that is none
is found out when the number after it is needed. -/
namespace AgentGateway

structure Sequence where
  current : Value

namespace Sequence

/-- A sequence from a start, or from zero. -/
def ofFields (fs : Fields) : Sequence := ⟨(fs.get? "start").getD (.int 0)⟩

/-- The number after another one. -/
def after : Value → Except Failure Value
  | .float d => .ok (.float d.next)
  | .text _ => .error (.misuse (.unjoined "str" "int"))
  | .list _ => .error (.misuse (.notIterable "int"))
  | v => match v.count? with
    | some n => .ok (.int (n + 1))
    | none => .error (.misuse (.noSum "+=" v.kindName "int"))

/-- The number that is next, and the sequence behind it. -/
def next (s : Sequence) : Except Failure (Value × Sequence) :=
  (after s.current).map fun v => (s.current, ⟨v⟩)

theorem next_int (n : Int) : next ⟨.int n⟩ = .ok (.int n, ⟨.int (n + 1)⟩) := rfl

end Sequence
end AgentGateway
