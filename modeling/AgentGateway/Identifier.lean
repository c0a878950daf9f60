import AgentGateway.Entropy
import AgentGateway.Text.Blank
import AgentGateway.Text.CodePoint

/-! Identifiers of responses, conversations and items.

An identifier is a category, an underscore and a body; the body is random
characters followed by the partition key. All identifiers of one response share
the partition key, which is read off the conversation's identifier. -/
namespace AgentGateway

/-- How many characters of a body are random, and how many are the partition key. -/
structure Layout where
  entropy : Int
  partition : Int
deriving DecidableEq, Repr

namespace Layout

def standard : Layout := ⟨32, 16⟩

end Layout

namespace Identifier

/-- A new identifier; a partition key is drawn when none is given. -/
def fresh (category : String) (l : Layout) (partition : Option String) : Drawing String := do
  let entropy ← Entropy.draw l.entropy
  let partition ← match partition with
    | some p => pure p
    | none => Entropy.draw l.partition
  return s!"{category}_{entropy}{partition}"

/-- The pieces between underscores that are not empty, in code points. -/
def pieces (s : String) : List (List Nat) :=
  (Text.splitAt '_'.toNat (Text.codes s.toList)).filter fun p => !p.isEmpty

/-- The end of a body: its last `n` code points. All of it for zero, and what comes
after the first `-n` code points for a negative `n`. -/
def tail (body : List Nat) (n : Int) : List Nat :=
  if 0 < n then body.drop (body.length - n.toNat) else body.drop (-n).toNat

/-- The partition key of an identifier whose second piece is long enough for both
parts of a body. -/
def partition? (l : Layout) (identifier : String) : Option String :=
  match pieces identifier with
  | _ :: body :: _ =>
    if (body.length : Int) < l.entropy + l.partition then none
    else some (String.ofList (Text.spellAll (tail body l.partition)))
  | _ => none

def partition (l : Layout) (identifier : Option String) : Except Failure String :=
  match identifier.bind (partition? l) with
  | some p => .ok p
  | none => .error (.report (.malformedIdentifier (.ofText? identifier)))

end Identifier

/-- The identifiers of one response, and what further ones are made from. -/
structure IdSource where
  layout : Layout
  responseId : String
  conversationId : String
  partition : String
deriving DecidableEq, Repr

namespace IdSource

/-- A given identifier that is not empty, or else a new one. -/
def givenOr (given : Option String) (category : String) (l : Layout) : Drawing String :=
  match given with
  | some s => if s.isEmpty then Identifier.fresh category l none else pure s
  | none => Identifier.fresh category l none

def make (responseId conversationId : Option String) (l : Layout) : Drawing IdSource := do
  let responseId ← givenOr responseId "resp" l
  let conversationId ← givenOr conversationId "conv" l
  let partition ← ExceptT.mk (pure (Identifier.partition l (some conversationId)))
  return ⟨l, responseId, conversationId, partition⟩

/-- A new identifier in the partition; a category that is missing or empty is `id`. -/
def generate (s : IdSource) (category : Option String) : Drawing String :=
  let category := category.getD ""
  Identifier.fresh (if category.isEmpty then "id" else category) s.layout (some s.partition)

def functionCallId (s : IdSource) : Drawing String := s.generate (some "func")

def functionOutputId (s : IdSource) : Drawing String := s.generate (some "funcout")

def messageId (s : IdSource) : Drawing String := s.generate (some "msg")

def reasoningId (s : IdSource) : Drawing String := s.generate (some "rs")

end IdSource
end AgentGateway
