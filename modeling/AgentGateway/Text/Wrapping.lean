import AgentGateway.Text.Blank
import AgentGateway.Text.CellWidth
import AgentGateway.Text.Line

/-! Text set in a given width.

A line is broken between words, in front of the first word that has no room left. A word
keeps the blanks behind it, and those in front of it where it is the first. What is too
wide even by itself is either cut, with a sign at its end that more would follow, or goes
on in the next line. -/
namespace AgentGateway.Text

/-! ### Tabs -/

/-- How many blanks a tab is shown as that stands behind a piece which begins in a column:
one, and more up to the next stop; a stop is every eighth cell. -/
def tabBlanks (column : Nat) (piece : List Char) : Nat :=
  1 + (8 - (column + cellWidth (piece ++ [' '])) % 8) % 8

/-- The pieces between tabs as one line without them: `column` is the cell in which it
begins, `place` where it begins in the line with tabs, and `target` where in the line
without. A span that reaches a tab goes on over its blanks. -/
def withoutTabs (spans : List Span) (column place target : Nat) : List (List Char) → Line
  | [] => Line.empty
  | [piece] =>
    ⟨piece, (spans.filterMap (Span.within place (place + size piece))).map (Span.shift target)⟩
  | piece :: rest =>
    let blanks := tabBlanks column piece
    let next := place + size piece + 1
    let here := (spans.filterMap (Span.within place next)).map fun s =>
      if s.last = size piece + 1 then { s with last := size piece + blanks } else s
    let reached := column + cellWidth (piece ++ [' ']) + (blanks - 1)
    let more := withoutTabs spans reached next (target + size piece + blanks) rest
    ⟨piece ++ List.replicate blanks ' ' ++ more.text, here.map (Span.shift target) ++ more.spans⟩

/-- The lines of a text, without tabs. -/
def plainLines (l : Line) : List Line :=
  (l.cut 1 (splitAt '\n' l.text)).map fun line =>
    if line.text.contains '\t' then withoutTabs line.spans 0 0 0 (splitAt '\t' line.text) else line

/-! ### Words -/

/-- The words of a text with the blanks behind each, after `before`. -/
def wordsAfter (before s : List Char) : List (List Char) :=
  match s with
  | [] => []
  | c :: rest =>
    let isInk (d : Char) : Bool := !isBlankOrSeparator d
    let more := rest.dropWhile isInk
    (before ++ c :: rest.takeWhile isInk ++ more.takeWhile isBlankOrSeparator) ::
      wordsAfter [] (more.dropWhile isBlankOrSeparator)
termination_by s.length
decreasing_by
  simp only [List.length_cons]
  exact Nat.lt_succ_of_le (Nat.le_trans (List.dropWhile_suffix _).length_le
    (List.dropWhile_suffix _).length_le)

/-- The words of a line; the first one has the blanks in front of it too. -/
def spacedWords (s : List Char) : List (List Char) :=
  wordsAfter (s.takeWhile isBlankOrSeparator) (s.dropWhile isBlankOrSeparator)

def withoutEndBlanks (s : List Char) : List Char :=
  (s.reverse.dropWhile isBlankOrSeparator).reverse

/-! ### Lines -/

/-- What becomes of that which is too wide. -/
inductive Overflow where
  | fold
  | ellipsis
deriving DecidableEq, Repr

/-- Set words in lines, `line` being what stands on the last one and `used` its cells. -/
def setWords (o : Overflow) (width used : Nat) (line : List Char) :
    List (List Char) → List (List Char)
  | [] => [line]
  | word :: rest =>
    let ink := cellWidth (withoutEndBlanks word)
    if used + ink ≤ width then setWords o width (used + cellWidth word) (line ++ word) rest
    else
      let finished := if line.isEmpty then [] else [line]
      if width < ink ∧ o = .fold then
        let folded := foldCells width word
        let last := folded.getLast?.getD []
        finished ++ folded.dropLast ++ setWords o width (cellWidth last) last rest
      else finished ++ setWords o width (cellWidth word) word rest

/-- A line without those blanks at its end that stand beyond the width. -/
def cropBlanks (width : Nat) (s : List Char) : List Char :=
  let blanks := s.length - (withoutEndBlanks s).length
  s.take (s.length - min blanks (size s - width))

/-- The sign that more would follow. -/
def ellipsis : Char := '…'

/-- A line that keeps to a width. -/
def fitCells (o : Overflow) (width : Nat) (s : List Char) : List Char :=
  if cellWidth s ≤ width then s
  else match o with
    | .fold => cutCells width s
    | .ellipsis => cutCells (width - 1) s ++ [ellipsis]

/-- The lines that a text takes in a width; without any width there are none. -/
def setLines (o : Overflow) (width : Nat) (l : Line) : List Line :=
  if width = 0 then [] else (plainLines l).flatMap fun line =>
    let pieces := match spacedWords line.text with
      | [] => [line.text]
      | words => setWords o width 0 [] words
    (line.cut 0 pieces).map fun piece =>
      let cropped := piece.setText (cropBlanks width piece.text)
      cropped.setText (fitCells o width cropped.text)

/-- The width that a text would like: that of its widest line, a tab taking no room. -/
def textWidth (s : List Char) : Nat :=
  ((splitWhere isLineEnd s).map cellWidth).foldl max 0

end AgentGateway.Text
