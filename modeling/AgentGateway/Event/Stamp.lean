import AgentGateway.Event
import AgentGateway.Sequence

/-! Events made from a number and an index as they are given.

A sequence may start anywhere and an item may be given any index; both are looked at
when an event is made from them. The sequence moves on first, so an event that cannot
be made has used up its number, unless there is none after it. -/
namespace AgentGateway

namespace Event

/-- The body of an event of the item at another index. -/
def Body.moveTo (index : Int) : Body → Body
  | .envelope kind response => .envelope kind response
  | .itemAdded _ item => .itemAdded index item
  | .itemDone _ item => .itemDone index item
  | .partAdded id _ part content => .partAdded id index part content
  | .partDone id _ part content => .partDone id index part content
  | .textDelta id _ part delta logprobs => .textDelta id index part delta logprobs
  | .textDone id _ part text logprobs => .textDone id index part text logprobs
  | .argumentsDelta id _ delta => .argumentsDelta id index delta
  | .argumentsDone id _ arguments => .argumentsDone id index arguments
  | .error code message param => .error code message param
  | .other type => .other type

/-- A number as an event takes it. -/
def checkNumber (number : Value) : Checked Int :=
  Schema.required [("sequence_number", number)] "sequence_number" Schema.int

/-- The event of an item, where its number and its item's index are whole. -/
def stamp (number index : Value) (body : Body) : Checked Event :=
  (fun n i => .plain n (body.moveTo i)) <$> checkNumber number
    <*> Schema.required [("output_index", index)] "output_index" Schema.int

end Event

namespace Sequence

/-- Make an event with the next number. -/
def stamp (s : Sequence) (index : Value) (body : Event.Body) : Except Failure Event × Sequence :=
  match s.next with
  | .error f => (.error f, s)
  | .ok (number, s) => match Event.stamp number index body with
    | .ok e => (.ok e, s)
    | .faulty faults => (.error (.invalid faults), s)

/-- Make events with the next numbers, in order, up to the first that cannot be made. -/
def stampAll (s : Sequence) (index : Value) :
    List Event.Body → Except Failure (List Event) × Sequence
  | [] => (.ok [], s)
  | body :: rest => match s.stamp index body with
    | (.error f, s) => (.error f, s)
    | (.ok e, s) =>
      let (es, s) := s.stampAll index rest
      (es.map (e :: ·), s)

theorem stamp_int (n i : Int) (body : Event.Body) :
    stamp ⟨.int n⟩ (.int i) body = (.ok (.plain n (body.moveTo i)), ⟨.int (n + 1)⟩) := rfl

end Sequence
end AgentGateway
