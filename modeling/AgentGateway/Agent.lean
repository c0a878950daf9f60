import AgentGateway.Projection

/-! Agents that follow a script.

An agent streams the steps of its script. Run as a whole it gathers the updates of
its stream, unless it has a quicker way to its answer. -/
namespace AgentGateway

structure Agent where
  name : String
  description : String
  /-- The name of the agent's kind, shown for an agent without a name. -/
  kindName : String
  /-- The steps of a run, or why no run can be streamed. -/
  stream : Except Failure (List RunStep)
  /-- The answer of an agent that does not gather its stream. -/
  answer : Option (Except Failure Run)

namespace Agent

def displayName (a : Agent) : String := if a.name.isEmpty then a.kindName else a.name

/-- An agent that implements no stream. -/
def bare (name description : String) : Agent :=
  ⟨name, description, "Agent", .error (.misuse .noStream), none⟩

/-- The updates of a script, up to its first failure. -/
def updates : List RunStep → Except Failure (List Update)
  | [] => .ok []
  | .update u :: rest => (updates rest).map (u :: ·)
  | .fail f :: _ => .error f.leavingStream
  | .cancel :: rest => updates rest
  | .incomplete _ :: rest => updates rest

/-- Gather the updates of the agent's stream. -/
def gather (a : Agent) : Except Failure Run := do
  let us ← updates (← a.stream)
  return .ofUpdates us

/-- Run the agent to its end. -/
def run (a : Agent) : Except Failure Run :=
  (a.answer.getD a.gather).mapError Failure.leavingRun

end Agent
end AgentGateway
