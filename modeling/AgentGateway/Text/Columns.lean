import AgentGateway.Number.Places
import AgentGateway.Text.Wrapping

/-! Rows of texts set in columns.

Every column is as wide as its widest text and has two blanks on either side. Where the
columns together are too wide, the widest of them give way first, until they are as
narrow as the next widest ones. -/
namespace AgentGateway.Text.Columns

/-! ### Widths -/

/-- Take something off the widths that equal the greatest, as evenly as it goes and from
none more than `most`; `sharers` of them are still to come. -/
def reduce (greatest most sharers excess : Nat) : List Nat → List Nat
  | [] => []
  | w :: rest =>
    if w = greatest then
      let part := min most (Double.roundHalfEven excess sharers)
      (w - part) :: reduce greatest most (sharers - 1) (excess - part) rest
    else w :: reduce greatest most sharers excess rest

def total (widths : List Nat) : Nat := widths.foldl (· + ·) 0

/-- One step towards a limit. -/
def narrow (limit : Nat) (widths : List Nat) : List Nat :=
  let excess := total widths - limit
  let greatest := widths.foldl max 0
  let next := (widths.filter (· ≠ greatest)).foldl max 0
  reduce greatest (min excess (greatest - next)) (widths.count greatest) excess widths

/-- Narrow columns until they keep to a limit. -/
def narrowTo (limit : Nat) (widths : List Nat) : Nat → List Nat
  | 0 => widths
  | fuel + 1 => if total widths ≤ limit then widths else narrowTo limit (narrow limit widths) fuel

/-- The blanks on one side of a column. -/
def margin : Nat := 2

/-- The width of each column with its margins. -/
def widths (limit : Nat) (columns : List (List Line)) : List Nat :=
  let wanted := columns.map fun lines =>
    min limit ((lines.map fun l => textWidth l.text).foldl max 0 + 2 * margin)
  narrowTo limit wanted (total wanted)

/-! ### Rows -/

def blanks (n : Nat) : List Char := List.replicate n ' '

/-- A text of a row, set in the width of its column. -/
structure Cell where
  width : Nat
  lines : List Line

/-- The cells of all rows in a given width. -/
def set (limit : Nat) (rows : List (List Line)) : List (List Cell) :=
  let count := (rows.map List.length).foldl max 0
  let columns := (List.range count).map fun n => rows.filterMap fun r => r[n]?
  let ws := widths limit columns
  rows.map fun r => (ws.zip r).map fun (w, l) => ⟨w, setLines .ellipsis (w - 2 * margin) l⟩

/-- A line of a cell between its margins. -/
def Cell.row (c : Cell) (n : Nat) : List Char :=
  match c.lines[n]? with
  | some l => blanks margin ++ fillCells (c.width - 2 * margin) l.text ++ blanks margin
  | none => blanks c.width

/-- The lines of a row: its cells side by side, each from the top. There is one at least. -/
def row (cells : List Cell) : List (List Char) :=
  let height := (cells.map fun c => c.lines.length).foldl max 1
  (List.range height).map fun n => cells.flatMap fun c => c.row n

/-- All rows, every line ended. -/
def render (rows : List (List Cell)) : List Char :=
  rows.flatMap fun cells => (row cells).flatMap (· ++ ['\n'])

end AgentGateway.Text.Columns
