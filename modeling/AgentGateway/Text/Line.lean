import AgentGateway.Text.CodePoint

/-! Lines of text with spans in them.

A span is a row of places of which something is said. Where a line is cut into pieces each
piece keeps what it has of the spans; what is empty of a span is kept only as long as the
line is whole. Places are counted in code points. -/
namespace AgentGateway.Text

/-- The places from `first` on, up to `last`, which does not belong to them. -/
structure Span where
  first : Nat
  last : Nat
deriving DecidableEq, Repr

namespace Span

/-- What lies between two places, counted from the first of them. -/
def within (first last : Nat) (s : Span) : Option Span :=
  let found : Span := ⟨s.first - first, min s.last last - first⟩
  if found.first < found.last then some found else none

def shift (n : Nat) (s : Span) : Span := ⟨s.first + n, s.last + n⟩

end Span

structure Line where
  text : List Char
  spans : List Span
deriving DecidableEq, Repr

namespace Line

def empty : Line := ⟨[], []⟩

/-- Pieces of a text, of which the first begins at a place and each is followed by a gap,
with what they have of the spans. -/
def distribute (spans : List Span) (gap place : Nat) : List (List Char) → List Line
  | [] => []
  | piece :: rest =>
    let next := place + size piece
    ⟨piece, spans.filterMap (Span.within place next)⟩ :: distribute spans gap (next + gap) rest

/-- Cut a line into pieces with gaps between them. -/
def cut (l : Line) (gap : Nat) (pieces : List (List Char)) : List Line :=
  if pieces.length ≤ 1 then [l] else distribute l.spans gap 0 pieces

/-- Put another text in place of a line's. Of a shorter one no span begins behind the end. -/
def setText (l : Line) (s : List Char) : Line :=
  ⟨s, if size s < size l.text then l.spans.filter fun p => p.first < size s else l.spans⟩

end Line
end AgentGateway.Text
