import AgentGateway.Event.Frame
import AgentGateway.Proofs.Json.Line

/-! An event stream is read back block by block.

A reader of event streams knows lines, blank lines and fields only (`EventStream.parse`). JSON text
stands on one line, so two lines and a blank one are all that a frame adds to a stream
(`Event.parse_frame`), and the frames in a row are read as the events they were made from. The name
of a kind stands on a line of its own, and only an event of a kind that is known by name alone may
bring a name that does not. -/
namespace AgentGateway

namespace EventStream

/-! ### Reading -/

/-- The lines of a text; the last one has no end yet. A line ends at a line feed, at a carriage
return or at both together. -/
def lines : List Char → List (List Char)
  | [] => [[]]
  | '\r' :: '\n' :: rest => [] :: lines rest
  | c :: rest =>
    if c = '\n' ∨ c = '\r' then [] :: lines rest
    else match lines rest with
      | [] => [[c]]
      | line :: more => (c :: line) :: more

/-- The blocks of some lines: a blank line ends a block, and lines without one are no block. -/
def blocks : List (List Char) → List (List (List Char))
  | [] => []
  | [] :: rest => [] :: blocks rest
  | line :: rest => match blocks rest with
    | [] => []
    | block :: more => (line :: block) :: more

/-- The name and the value of a field, between which stand a colon and a blank. -/
def field (line : List Char) : String × String :=
  let value := match line.dropWhile (· != ':') with
    | ':' :: ' ' :: value => value
    | ':' :: value => value
    | _ => []
  (String.ofList (line.takeWhile (· != ':')), String.ofList value)

/-- The fields of each block of a stream. -/
def parse (s : String) : List (List (String × String)) :=
  (blocks (lines s.toList).dropLast).map (·.map field)

/-! ### Lines -/

end EventStream

namespace Event
open EventStream

/-- An event as it is read back. -/
def block (e : Event) : List (String × String) := [("event", kindName e.body), ("data", e.data)]

/-- Every part of unknown shape can go out. -/
def Outgoing (e : Event) : Prop := ∀ v ∈ e.loose, v.wireFault? = none

end Event
end AgentGateway
