import AgentGateway.Failure

/-! Random characters, as a stream of which some have been drawn.

Every draw takes the next characters of the stream, so what has been drawn so far
and the order of the draws decide every later one. -/
namespace AgentGateway

structure Entropy where
  source : Nat → Char
  drawn : Nat

/-- A computation that draws characters and may fail on the way; what it drew
before failing stays drawn. -/
abbrev Drawing := ExceptT Failure (StateM Entropy)

/-- A result that draws nothing. -/
def Drawing.ofExcept {α : Type} (r : Except Failure α) : Drawing α := fun e => (r, e)

namespace Entropy

/-- Latin letters, small then capital, and the digits. -/
def alphabet : List Char :=
  "abcdefghijklmnopqrstuvwxyzABCDEFGHIJKLMNOPQRSTUVWXYZ0123456789".toList

/-- The stream that runs through the alphabet over and over. -/
def cyclic : Entropy := ⟨fun n => alphabet.getD (n % alphabet.length) 'a', 0⟩

/-- The next `n` characters of the stream. -/
def peek (e : Entropy) (n : Nat) : List Char := (List.range n).map fun i => e.source (e.drawn + i)

def advance (e : Entropy) (n : Nat) : Entropy := { e with drawn := e.drawn + n }

/-- Draw so many characters. -/
def draw (length : Int) : Drawing String := fun e =>
  if length < 0 then (.error (.misuse .negativeLength), e)
  else (.ok (String.ofList (e.peek length.toNat)), e.advance length.toNat)

theorem length_peek (e : Entropy) (n : Nat) : (e.peek n).length = n := by simp [peek]

theorem peek_add (e : Entropy) (m n : Nat) : e.peek (m + n) = e.peek m ++ (e.advance m).peek n := by
  simp [peek, advance, List.range_add, Nat.add_assoc, Function.comp_def]

end Entropy
end AgentGateway
