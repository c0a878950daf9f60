import AgentGateway.Text.Letter

/-! Where an agent is loaded from: a module or a file, and perhaps the name of one of
its members after a colon.

The last colon counts. It does not when nothing stands in front of it, when a slash
follows it, or when a single letter stands in front of it, which names a drive. -/
namespace AgentGateway

structure AgentSource where
  target : String
  member : Option String
deriving DecidableEq, Repr

namespace AgentSource

/-- What stands in front of the last mark and what follows it, if there is one. -/
def splitLast? (mark : Char) (s : List Char) : Option (List Char × List Char) :=
  let after := s.reverse.takeWhile (· != mark)
  if after.length = s.length then none
  else some (s.take (s.length - after.length - 1), after.reverse)

def isDrive : List Char → Bool
  | [c] => Text.isLetter c
  | _ => false

/-- Read a source. A name that is empty counts as none. -/
def ofText (source : String) : AgentSource :=
  match splitLast? ':' source.toList with
  | none => ⟨source, none⟩
  | some (target, member) =>
    if target.isEmpty ∨ member.contains '/' ∨ isDrive target then ⟨source, none⟩
    else ⟨String.ofList target, if member.isEmpty then none else some (String.ofList member)⟩

end AgentSource
end AgentGateway
