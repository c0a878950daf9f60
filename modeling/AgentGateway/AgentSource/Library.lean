import AgentGateway.Agent
import AgentGateway.AgentSource
import AgentGateway.Directory

/-! The modules and files that agents are loaded from.

A member of a module is an agent, a factory, or some other value. Besides its own members
a module has some that tell about itself; which, depends on where it comes from. Loading
takes the member that the source names, or else the first of the usual ones; an agent
is taken as it is, and a factory is called once for one. What a factory or a module
raises on its own is passed on, unless the module stands in a file that was named:
then the file is what failed to load. -/
namespace AgentGateway

inductive Member where
  | agent (name : String)
  | value (v : Value)
  /-- Anything else, of which only its kind is known. -/
  | other (kind : String)
  | factory (made : Member)
  /-- A factory that fails. -/
  | failing (f : Failure)

inductive ModuleBody where
  | members (as : Keyed Member)
  /-- A module that fails while it is loaded. -/
  | failing (f : Failure)

/-- Where a module comes from. -/
inductive ModuleOrigin where
  /-- It is there without a file. -/
  | given
  | file
  /-- A directory with a file of its own. -/
  | package
  | directory
deriving DecidableEq, Repr

inductive LibraryFile where
  | text (s : String)
  | module (b : ModuleBody)

/-- A file as a module; a plain text defines nothing. -/
def LibraryFile.body : LibraryFile → ModuleBody
  | text _ => .members []
  | module b => b

structure Library where
  modules : Keyed (Keyed Member)
  files : Directory LibraryFile
  /-- The directory of the files, as messages name it. -/
  directory : String
  /-- Whether modules are also sought among the files. -/
  searched : Bool

/-- Why a source gives no agent. -/
inductive LoadError where
  | noFile (path : String)
  | failingFile (path reason : String)
  | noModule (name reason : String)
  | noAgent (source : String) (names : List String)
  | wrongResult (name source kind : String)
  | wrongKind (name source kind : String)
deriving DecidableEq, Repr

/-- How loading ends without an agent: refused, or by a failure that passes through. -/
inductive LoadFailure where
  | refused (e : LoadError)
  | passed (f : Failure)
deriving DecidableEq, Repr

namespace LoadError

def text : LoadError → String
  | noFile path => s!"File not found: {path}"
  | failingFile path reason => s!"Failed to load agent from {path}: {reason}"
  | noModule name reason => s!"Cannot import module '{name}': {reason}"
  | noAgent source names =>
    s!"No agent found in {source}.\nExpected one of: " ++ String.intercalate ", " names
  | wrongResult name source kind => s!"'{name}' in {source} returned {kind}, expected an Agent"
  | wrongKind name source kind =>
    s!"'{name}' in {source} is {kind}, expected an Agent or a factory"

end LoadError

namespace LoadFailure

def name : LoadFailure → String
  | refused _ => "AgentLoadError"
  | passed f => f.name

def text : LoadFailure → String
  | refused e => e.text
  | passed f => f.text

end LoadFailure

namespace Member

def kindName : Member → String
  | agent _ => "Agent"
  | value v => v.kindName
  | other kind => kind
  | factory _ => "function"
  | failing _ => "function"

def returning (kind : String) : Member := .factory (.other kind)

/-- A factory that cannot be called without arguments. -/
def refusing (reason : String) : Member := .failing (.foreign "TypeError" (some (.text reason)))

/-- What every module tells about itself. -/
def common : Keyed Member :=
  [("__name__", .other "str"), ("__doc__", .other "NoneType"), ("__dict__", .other "dict"),
    ("__annotations__", .other "dict"),
    ("__class__", refusing "module() missing required argument 'name' (pos 1)"),
    ("__init__", refusing "module() missing required argument 'name' (pos 1)"),
    ("__new__", refusing "module.__new__(): not enough arguments"),
    ("__dir__", returning "list"), ("__repr__", returning "str"), ("__str__", returning "str"),
    ("__hash__", returning "int"), ("__sizeof__", returning "int"),
    ("__getstate__", returning "dict"), ("__init_subclass__", returning "NoneType"),
    ("__subclasshook__", returning "NotImplementedType"),
    ("__reduce__", refusing "cannot pickle 'module' object"),
    ("__reduce_ex__", refusing "__reduce_ex__() takes exactly one argument (0 given)"),
    ("__format__", refusing "__format__() takes exactly one argument (0 given)"),
    ("__setattr__", refusing " expected 2 arguments, got 0")] ++
  ["__delattr__", "__eq__", "__ge__", "__getattribute__", "__gt__", "__le__", "__lt__",
    "__ne__"].map fun name => (name, refusing "expected 1 argument, got 0")

/-- What a module in a file tells about it. -/
def ofFile : Keyed Member :=
  [("__package__", .other "str"), ("__loader__", .other "SourceFileLoader"),
    ("__spec__", .other "ModuleSpec"), ("__file__", .other "str"), ("__cached__", .other "str"),
    ("__builtins__", .other "dict")]

/-- What a module tells about where it comes from. -/
def ofOrigin : ModuleOrigin → Keyed Member
  | .given =>
    [("__package__", .other "NoneType"), ("__loader__", .other "NoneType"),
      ("__spec__", .other "NoneType")]
  | .file => ofFile
  | .package => ofFile ++ [("__path__", .other "list")]
  | .directory =>
    [("__package__", .other "str"), ("__loader__", .other "NamespaceLoader"),
      ("__spec__", .other "ModuleSpec"), ("__file__", .other "NoneType"),
      ("__path__", .other "_NamespacePath")]

end Member

namespace Library

/-! ### Modules by name -/

structure Found where
  origin : ModuleOrigin
  members : Keyed Member
  /-- Where further modules are sought. -/
  place : Option Directory.Place

/-- Why a name gives no module. -/
inductive ImportFault where
  | missing (reason : String)
  /-- The module, or one that it stands in, fails while it is loaded. -/
  | failing (f : Failure)

def moduleAt? (l : Library) (place : Directory.Place) : Option ModuleBody :=
  (l.files.get? (Directory.join place ++ ".py")).map LibraryFile.body

/-- A module that is loaded on the way, unless it fails. -/
def Found.load (origin : ModuleOrigin) (place : Option Directory.Place) :
    ModuleBody → Except ImportFault Found
  | .members as => .ok ⟨origin, as, place⟩
  | .failing f => .error (.failing f)

/-- The module or package at a place among the files. -/
def foundAt? (l : Library) (place : Directory.Place) : Option (Except ImportFault Found) :=
  match l.moduleAt? (place ++ ["__init__"]), l.moduleAt? place with
  | some b, _ => some (Found.load .package (some place) b)
  | none, some b => some (Found.load .file none b)
  | none, none =>
    if l.files.isDirectory place then some (.ok ⟨.directory, [], some place⟩) else none

def unknownModule (name : String) : String := s!"No module named {Text.quoted name}"

/-- A module by the parts of its name, the last one first. A part is sought in the
package that the parts before it name, which is loaded before it. -/
def find (l : Library) : List String → Except ImportFault Found
  | [] => .error (.missing (unknownModule ""))
  | part :: parents =>
    let nameOf (parts : List String) := String.intercalate "." parts.reverse
    let name := nameOf (part :: parents)
    let unknown : Except ImportFault Found := .error (.missing (unknownModule name))
    let sought (place : Directory.Place) : Except ImportFault Found :=
      (if part.contains '/' then none else l.foundAt? (place ++ [part])).getD unknown
    match l.modules.get? name, parents with
    | some as, _ => .ok ⟨.given, as, none⟩
    | none, [] => if l.searched then sought [] else unknown
    | none, parents => do
      match (← l.find parents).place with
      | some place => sought place
      | none =>
        .error (.missing s!"{unknownModule name}; {Text.quoted (nameOf parents)} is not a package")

/-- The failures of a module that say that it cannot be imported. -/
def importFailures : List String := ["ImportError", "ModuleNotFoundError"]

def importModule (l : Library) (name : String) :
    Except LoadFailure (ModuleOrigin × Keyed Member) :=
  if name.isEmpty then .error (.passed (.misuse .emptyModuleName))
  else if name.startsWith "." then .error (.passed (.misuse (.relativeModuleName name)))
  else
    let parts := (Text.splitAt '.' name.toList).map String.ofList
    match l.find parts.reverse with
    | .ok found => .ok (found.origin, found.members)
    | .error (.missing reason) => .error (.refused (.noModule name reason))
    | .error (.failing f) =>
      if importFailures.contains f.name then .error (.refused (.noModule name f.text))
      else .error (.passed f)

/-! ### Files -/

def loadFile (l : Library) (path : String) :
    Except LoadFailure (ModuleOrigin × Keyed Member) :=
  match l.files.file? path with
  | none => .error (.refused (.noFile path))
  | some (name, file) =>
    match file.body with
    | .members as => .ok (.file, as)
    | .failing f =>
      if f.isHandled then .error (.refused (.failingFile s!"{l.directory}/{name}" f.text))
      else .error (.passed f)

/-! ### Agents -/

/-- The members that are looked up when none is named. -/
def usualNames : List String := ["agent", "create_agent", "get_agent"]

/-- The agent that a member stands for. -/
def agentOf (source name : String) : Member → Except LoadFailure Agent
  | .agent n => .ok (.bare n "")
  | .factory (.agent n) => .ok (.bare n "")
  | .factory made => .error (.refused (.wrongResult name source made.kindName))
  | .failing f => .error (.passed f)
  | m => .error (.refused (.wrongKind name source m.kindName))

/-- The member of a module under a name, its own ones first. -/
def member? (origin : ModuleOrigin) (as : Keyed Member) (name : String) : Option Member :=
  ((as.get? name).or ((Member.ofOrigin origin).get? name)).or (Member.common.get? name)

def resolve (source : String) (names : List String) (origin : ModuleOrigin) (as : Keyed Member) :
    Except LoadFailure Agent :=
  match names.findSome? fun n => (member? origin as n).map fun a => (n, a) with
  | some (name, a) => agentOf source name a
  | none => .error (.refused (.noAgent source names))

/-- Load the agent that a source names. -/
def load (l : Library) (source : String) : Except LoadFailure Agent := do
  let s := AgentSource.ofText source
  let (origin, as) ←
    if s.target.endsWith ".py" then l.loadFile s.target else l.importModule s.target
  resolve source ((s.member.map fun n => [n]).getD usualNames) origin as

end Library
end AgentGateway
