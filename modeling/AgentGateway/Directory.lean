import AgentGateway.Keyed
import AgentGateway.Text.Blank

/-! Files below one directory, each under its path from there.

A path is followed part by part. An empty part and `.` stay, `..` goes up, and
every other part goes down; each step but the last needs a directory to start
from. What lies outside of the directory is out of reach. -/
namespace AgentGateway

/-- Files by the parts of their paths, joined by slashes. -/
abbrev Directory (α : Type) := Keyed α

namespace Directory
variable {α : Type}

/-- The parts of a path, from the directory down. -/
abbrev Place := List String

def parts (path : String) : List String := (Text.splitAt '/' path.toList).map String.ofList

def join (p : Place) : String := String.intercalate "/" p

def isDirectory (d : Directory α) (p : Place) : Bool :=
  p.isEmpty || d.any fun e => p.isPrefixOf (parts e.1) && p != parts e.1

/-- Where the parts of a path lead to from a place. -/
def follow (d : Directory α) (place : Place) : List String → Option Place
  | [] => some place
  | part :: rest =>
    if !d.isDirectory place then none
    else if part = "" ∨ part = "." then follow d place rest
    else if part = ".." then
      if place.isEmpty then none else follow d place.dropLast rest
    else follow d (place ++ [part]) rest

/-- The place that a path leads to, if there is anything under the directory. -/
def place? (d : Directory α) (path : String) : Option Place :=
  if path.isEmpty ∨ path.startsWith "/" then none else follow d [] (parts path)

/-- The file under a path, with the plain form of the path. -/
def file? (d : Directory α) (path : String) : Option (String × α) := do
  let name := join (← place? d path)
  return (name, ← Keyed.get? d name)

/-- Whether a file or a directory is under a path. -/
def holds (d : Directory α) (path : String) : Bool :=
  match place? d path with
  | some p => d.isDirectory p || d.has (join p)
  | none => false

end Directory
end AgentGateway
