import AgentGateway.Identifier
import AgentGateway.Item
import AgentGateway.Message
import AgentGateway.Part.Conversion

/-! The output items of a materialized message.

Every function call and function result becomes an item of its own, in place; all
other parts of the message are gathered in one message item at the end. -/
namespace AgentGateway

/-- The JSON text of a call's arguments, for those that have one (`Content.limit?`). -/
def serializeArguments (arguments : Option Fields) : String :=
  Json.write Json.spaced (.ofOption .object arguments)

namespace Item

def ofCall (callId name : String) (arguments : Option Fields) (id : String) : Item :=
  functionCall id .completed callId name (serializeArguments arguments)

def ofResult (callId : String) (result : Value) (failure : Option Failure) (id : String) : Item :=
  functionOutput id .completed callId (Content.resultText result failure)

/-- The items and parts of some contents, in order. A call or a result that cannot be spelled has
drawn its identifier by the time that is found out. -/
def collect (ids : IdSource) : List Content → Drawing (List Item × List Part)
  | [] => pure ([], [])
  | c :: rest => do
    match c.body with
    | .functionCall callId name arguments =>
      let item := ofCall callId name arguments (← ids.functionCallId)
      Drawing.ofExcept c.spelled
      let (items, parts) ← collect ids rest
      return (item :: items, parts)
    | .functionResult callId result failure =>
      let item := ofResult callId result failure (← ids.functionOutputId)
      Drawing.ofExcept c.spelled
      let (items, parts) ← collect ids rest
      return (item :: items, parts)
    | _ =>
      Drawing.ofExcept c.spelled
      match Part.ofContent .output c with
      | .error r => throw (.report r)
      | .ok part =>
        let (items, parts) ← collect ids rest
        return (items, part.toList ++ parts)

def ofMessage (ids : IdSource) (m : Message) : Drawing (List Item) := do
  let (items, parts) ← collect ids m.contents
  if parts.isEmpty then return items
  else return items ++ [message (← ids.messageId) .completed parts]

def ofMessages (ids : IdSource) : List Message → Drawing (List Item)
  | [] => pure []
  | m :: rest => do
    let items ← ofMessage ids m
    let more ← ofMessages ids rest
    return items ++ more

end Item
end AgentGateway
