import AgentGateway.Failure
import AgentGateway.Text.Columns

/-! What the command line shows.

A notice is one line: a symbol for its kind, a blank and its text. Errors go to the
error stream, the rest goes where it is asked to, to the output by default. The
serving summary is a table of two columns, one row for each thing that is known. -/
namespace AgentGateway

inductive Notice where
  | success
  | error
  | warning
  | info
deriving DecidableEq, Repr

/-- What was written to the two streams. -/
structure Console where
  output : String
  errors : String
deriving DecidableEq, Repr

namespace Notice

def symbol : Notice → String
  | success => "✓"
  | error => "✗"
  | warning => "⚠"
  | info => "ℹ"

def all : List (String × Notice) :=
  [("success", success), ("error", error), ("warning", warning), ("info", info)]

end Notice

/-! ### Texts with tags -/

/-- The width of a terminal. -/
def terminalWidth : Nat := 500

def markupFailure (f : Text.MarkupFault) : Failure := .misuse (.markup f)

/-- A text as it is shown, its tags left out. -/
def shownText (s : String) : Except Failure Text.Line := (Text.showMarkup s).mapError markupFailure

/-- Lines can be shown where no span is left in them of a style that is of no use. -/
def checkStyles (lines : List Text.Line) : Except Failure Unit :=
  if lines.all fun l => l.spans.isEmpty then .ok () else .error (markupFailure .emptyColourPart)

/-- The line of a notice; one that is too wide goes on in the next one. -/
def Notice.line (n : Notice) (text : String) : Except Failure String := do
  let lines := Text.setLines .fold terminalWidth (← shownText s!"{n.symbol} {text}")
  checkStyles lines
  return String.ofList (lines.flatMap fun l => l.text ++ ['\n'])

namespace Console

def empty : Console := ⟨"", ""⟩

def write (c : Console) (toErrors : Bool) (s : String) : Console :=
  if toErrors then { c with errors := c.errors ++ s } else { c with output := c.output ++ s }

/-- Who is told twice which stream to take. -/
def echoOwner : String := "agent_responses_runtime.cli.utils.console._echo"

/-- Show a notice of any value. An error has its stream already and may not be given one;
anything else goes to the errors if what is given counts for something. -/
def notice (c : Console) (n : Notice) (toErrors : Option Value) (message : Value) :
    Except Failure Console := do
  if n = .error ∧ toErrors.isSome then .error (.misuse (.call (.repeated echoOwner "stderr")))
  else
    let line ← n.line message.display
    return c.write (n = .error || toErrors.any fun v => !v.isVoid) line

end Console

/-! ### The serving summary -/

namespace ServeSummary

/-- What a summary may tell, by key and label, in order. -/
def labels : List (String × String) :=
  [("agent", "Agent"), ("url", "Responses URL"), ("stream_media_content", "Media streaming"),
    ("max_concurrent_requests", "Max concurrency"), ("log_level", "Log level")]

/-- The rows for what is known. -/
def rows (info : Fields) : List (String × String) :=
  labels.filterMap fun l => ((info.get? l.1).bind Value.present?).map fun v => (l.2, v.display)

/-- The rows in two columns. Without any width nothing is shown, and where there is no room
between the margins no text is looked at. -/
def render (width : Nat) (info : Fields) : Except Failure String := do
  let read (s : String) : Except Failure Text.Line :=
    if width ≤ 2 * Text.Columns.margin then .ok Text.Line.empty else shownText s
  let shown ← (rows info).mapM fun r => return [← read r.1, ← read r.2]
  if width = 0 then return ""
  let cells := Text.Columns.set width shown
  cells.forM fun row => row.forM fun c => checkStyles c.lines
  return String.ofList (Text.Columns.render cells)

end ServeSummary
end AgentGateway
