import AgentGateway.Failure
import AgentGateway.Text.Percent

/-! The names that an agent may have in a route.

A name is accepted when it is there and stands in an address as it is. -/
namespace AgentGateway

def checkAgentName (name : String) : Except Failure Unit :=
  if name.isEmpty then .error (.misuse .emptyAgentName)
  else match Text.encodingFault? name.toList with
    | some f => .error (.misuse (.unencodable f))
    | none =>
      if Text.needsNoEncoding name then .ok () else .error (.misuse (.unsafeAgentName name))

/-- The name that a value is, if it may stand in a route. -/
def agentNameOf (v : Value) : Except Failure String :=
  match v with
  | .text name => do
    checkAgentName name
    return name
  | v => .error (.misuse (if v.isVoid then .emptyAgentName else .notEncodable))

end AgentGateway
