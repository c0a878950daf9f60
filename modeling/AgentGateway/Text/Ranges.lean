/-! Sets of characters, given by the places where membership changes.

A set of ranges lists its boundaries in rising order: the first character of a
range, then the first one after it, and so on. A character belongs to the set
when an odd number of boundaries lie at or below it. -/
namespace AgentGateway.Text

structure Ranges where
  boundaries : Array Nat

namespace Ranges

/-- How many boundaries lie at or below `c`, those before `low` being known to and
those from `high` on being known not to. -/
def rank (r : Ranges) (c low high : Nat) : Nat → Nat
  | 0 => low
  | fuel + 1 =>
    if high ≤ low then low
    else
      let middle := (low + high) / 2
      match r.boundaries[middle]? with
      | none => low
      | some b => if b ≤ c then r.rank c (middle + 1) high fuel else r.rank c low middle fuel

/-- Whether a code point belongs to a set. -/
def has (r : Ranges) (n : Nat) : Bool :=
  r.rank n 0 r.boundaries.size (r.boundaries.size.log2 + 1) % 2 == 1

def contains (r : Ranges) (c : Char) : Bool := r.has c.toNat

end Ranges
end AgentGateway.Text
