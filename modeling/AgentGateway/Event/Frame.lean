import AgentGateway.Event
import AgentGateway.Json.Writer

/-! Events as frames of an event stream.

A frame is a line that names the event's kind, a line with the event's JSON text,
and an empty line. JSON text holds no line break, so the lines of a frame are
those three and no more. -/
namespace AgentGateway.Event

def data (e : Event) : String := Json.write Json.spaced e.write

def frame (e : Event) : String := s!"event: {kindName e.body}\ndata: {e.data}\n\n"

/-- The frame of an event that can go out. -/
def outgoingFrame (e : Event) : Except Failure String := e.document.map fun _ => e.frame

end AgentGateway.Event
