import AgentGateway.Event.Stamp
import AgentGateway.ItemBuilder

/-! Pulling events whose number and index are values as they are given.

What a builder does for an event it does before the event is made: its item's
identifier is drawn and a text is gathered, whether or not the event can be made then.
A cursor ends at an event that cannot be made. -/
namespace AgentGateway

/-- A builder with the index of its item as it was given. -/
structure StampedBuilder where
  builder : ItemBuilder
  index : Value

namespace StampedBuilder
open ItemBuilder (Cursor)

def new (kind : BuilderKind) (index : Value) : StampedBuilder := ⟨.new kind 0, index⟩

/-- What pulling gave, with everything that it moved on. -/
structure Pulled (α : Type) where
  result : Except Failure α
  builder : StampedBuilder
  cursor : Cursor
  supply : Supply
  sequence : Sequence

/-- Pull one event, if one is left. -/
def pull (b : StampedBuilder) (s : Supply) (q : Sequence) (c : Cursor) : Pulled (Option Event) :=
  match b.builder.pull s c with
  | .error (f, s) => ⟨.error f, b, .pending [], s, q⟩
  | .ok p =>
    let b := { b with builder := p.builder }
    match p.event with
    | none => ⟨.ok none, b, p.cursor, p.supply, q⟩
    | some e => match q.stamp b.index e.body with
      | (.ok e, q) => ⟨.ok (some e), b, p.cursor, p.supply, q⟩
      | (.error f, q) => ⟨.error f, b, .pending [], p.supply, q⟩

/-- Pull up to `n` events. -/
def pullMany (b : StampedBuilder) (s : Supply) (q : Sequence) (c : Cursor) :
    Nat → Pulled (List Event)
  | 0 => ⟨.ok [], b, c, s, q⟩
  | n + 1 =>
    let p := b.pull s q c
    match p.result with
    | .error f => ⟨.error f, p.builder, p.cursor, p.supply, p.sequence⟩
    | .ok none => ⟨.ok [], p.builder, p.cursor, p.supply, p.sequence⟩
    | .ok (some e) =>
      let rest := p.builder.pullMany p.supply p.sequence p.cursor n
      { rest with result := rest.result.map (e :: ·) }

/-- Complete the item. It is complete also where its last events cannot be made. -/
def complete (b : StampedBuilder) (q : Sequence) :
    Except Failure (List Event) × StampedBuilder × Sequence :=
  let (events, q) := q.stampAll b.index b.builder.completion
  (events, { b with builder := b.builder.complete }, q)

end StampedBuilder
end AgentGateway
