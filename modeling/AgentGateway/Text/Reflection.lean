import AgentGateway.Text.Quoted
import AgentGateway.Text.Reflection.Kinds

/-! What a text tells about itself when it is asked by name.

A value is asked for an entry of its kind or of the widest kind; a kind is asked as a value,
whose kind is that of all kinds, and for its own entries too. What is worked out or kept for
a value comes before everything else. A sequence also has places, by number, and so has a
text; the entries of a kind can be asked for by their names. -/
namespace AgentGateway.Text

inductive ReflectionFault where
  | unknownEntry (kind name : String)
  /-- An entry that a kind itself does not have. -/
  | unknownOfKind (kind name : String)
  /-- An entry that is there but never filled. -/
  | unfilled (name : String)
  | noPlaces (kind : String)
  | noPlacesOfKind (kind : String)
  /-- A kind that was given items already. -/
  | notGeneric (shown : String)
  | wordPlace (message : String)
  | placeRange (sequence : String)
  | unknownKey (shown : String)
  | noLayout (kind : String)
deriving DecidableEq, Repr

namespace ReflectionFault

def name : ReflectionFault → String
  | unknownEntry .. | unknownOfKind .. | unfilled _ => "AttributeError"
  | placeRange _ => "IndexError"
  | unknownKey _ => "KeyError"
  | _ => "TypeError"

def text : ReflectionFault → String
  | unknownEntry kind n => s!"'{kind}' object has no attribute '{n}'"
  | unknownOfKind kind n => s!"type object '{kind}' has no attribute '{n}'"
  | unfilled n => n
  | noPlaces kind => s!"'{kind}' object is not subscriptable"
  | noPlacesOfKind kind => s!"type '{kind}' is not subscriptable"
  | notGeneric shown => s!"{shown} is not a generic class"
  | wordPlace message => message
  | placeRange sequence => s!"{sequence} index out of range"
  | unknownKey shown => shown
  | noLayout kind => s!"unsupported format string passed to {kind}.__format__"

end ReflectionFault

namespace Reflection

/-- What a name leads to. -/
inductive Subject where
  | nothing
  | whole (n : Int)
  | text (cs : List Char)
  | kind (k : Kind)
  | sequence (ks : List Kind)
  /-- An entry of a kind, on its own. -/
  | entry (owner : Kind) (e : Entry)
  /-- An operation with the value that it works on. -/
  | bound (owner : Kind) (e : Entry) (self : Subject)
  /-- The entries of a kind by their names. -/
  | contents (k : Kind)
  /-- A kind with an item in brackets behind it. -/
  | applied (k : Kind) (item : String)

/-! ### Kinds -/

def kindNamed (name : String) : Kind := (kinds.find? fun k => k.name == name).getD (.named name)

/-- A kind and the wider ones. -/
def lineage (k : Kind) : List Kind := if k.name = anythingKind.name then [k] else [k, anythingKind]

/-- An entry with the kind that it is of, the narrower kind first. -/
def find? (k : Kind) (name : String) : Option (Kind × Entry) :=
  (lineage k).findSome? fun owner => (owner.find? name).map fun e => (owner, e)

namespace Subject

def ofText? : Option String → Subject
  | none => nothing
  | some s => text s.toList

def kindName : Subject → String
  | nothing => nothingKind.name
  | whole _ => wholeKind.name
  | text _ => textKind.name
  | kind _ => kindKind.name
  | sequence _ => sequenceKind.name
  | contents _ => contentsKind.name
  | applied .. => "types.GenericAlias"
  | bound _ e _ => if e.form = .slot then boundSlotKind.name else boundMethodKind.name
  | entry _ e => match e.form with
    | .slot => slotKind.name
    | .field => fieldKind.name
    | .member => memberKind.name
    | .ofKind => "classmethod_descriptor"
    | .free | .loose => "staticmethod"
    | _ => methodKind.name

def kindOf (s : Subject) : Kind := kindNamed s.kindName

/-! ### How they read -/

/-- Where operations are kept; the place itself is not told. -/
def place : String := "at 0x7f0000000000"

def entryText (owner : Kind) (e : Entry) : String :=
  let what := match e.form with
    | .slot => "slot wrapper"
    | .field => "attribute"
    | .member => "member"
    | _ => "method"
  s!"<{what} '{e.name}' of '{owner.name}' objects>"

def kindText (k : Kind) : String := s!"<class '{k.name}'>"

def display : Subject → List Char
  | nothing => "None".toList
  | whole n => (toString n).toList
  | text cs => cs
  | kind k => (kindText k).toList
  | sequence [k] => s!"({kindText k},)".toList
  | sequence ks => ("(" ++ String.intercalate ", " (ks.map kindText) ++ ")").toList
  | entry owner e => (entryText owner e).toList
  | bound _ e self =>
    let what := if e.form = .slot then "method-wrapper" else "built-in method"
    let name := if e.form = .slot then s!"'{e.name}'" else e.name
    s!"<{what} {name} of {self.kindName} object {place}>".toList
  | contents k =>
    let row (e : Entry) : String := quoted e.name ++ ": " ++ entryText k e
    ("mappingproxy(\x7b" ++ String.intercalate ", " (k.entries.map row) ++ "\x7d)").toList
  | applied k item => s!"{k.name}[{item}]".toList

/-- The form that tells texts from other values. -/
def nested : Subject → List Char
  | text cs => quotedChars cs
  | s => s.display

/-! ### Entries -/

/-- What a kind tells about itself. -/
def ofKind? (k : Kind) : String → Option Subject
  | "__name__" | "__qualname__" => some (text k.name.toList)
  | "__module__" => some (text "builtins".toList)
  | "__doc__" => some (ofText? k.doc)
  | "__text_signature__" => some (ofText? k.signature)
  | "__base__" => some (((lineage k)[1]?.map kind).getD nothing)
  | "__bases__" => some (sequence ((lineage k).drop 1))
  | "__mro__" => some (sequence (lineage k))
  | "__dict__" => some (contents k)
  | "__basicsize__" => some (whole k.size)
  | "__itemsize__" => some (whole k.itemSize)
  | "__flags__" => some (whole k.flags)
  | "__weakrefoffset__" => some (whole k.referencePlace)
  | "__dictoffset__" => some (whole k.entriesPlace)
  | _ => none

/-- What an operation of an owner tells about itself. -/
def ofOperation? (owner : Kind) (e : Entry) : String → Option Subject
  | "__name__" => some (text e.name.toList)
  | "__qualname__" => some (text (owner.name ++ "." ++ e.name).toList)
  | "__doc__" => some (ofText? e.doc)
  | "__text_signature__" => some (ofText? e.signature)
  | "__objclass__" => some (kind owner)
  | _ => none

/-- What is worked out or kept for a value under a name. -/
def worked (s : Subject) (name : String) : Except ReflectionFault Subject :=
  let told : Option Subject := match s, name with
    | s, "__class__" => some (kind s.kindOf)
    | kind k, name => ofKind? k name
    | entry owner e, name => ofOperation? owner e name
    | bound _ e self, "__self__" => some (if e.form = .loose then nothing else self)
    | bound _ _ _, "__module__" => some nothing
    | bound owner e self, name =>
      let named := match self with
        | kind k => k
        | self => self.kindOf
      ofOperation? (if e.form = .slot ∨ name = "__objclass__" then owner else named) e name
    | whole n, "real" | whole n, "numerator" => some (whole n)
    | whole _, "imag" => some (whole 0)
    | whole _, "denominator" => some (whole 1)
    | _, _ => none
  match told, s with
  | some t, _ => .ok t
  | none, kind k =>
    .error (if name = "__abstractmethods__" then .unfilled name else .unknownOfKind k.name name)
  | none, s => .error (.unknownEntry s.kindName name)

/-- An entry as a value has it. -/
def take (s : Subject) (owner : Kind) (e : Entry) : Except ReflectionFault Subject :=
  match e.form with
  | .method | .slot => .ok (bound owner e s)
  | .ofKind => .ok (bound owner e (kind s.kindOf))
  | .free | .loose => .ok (bound owner e (kind owner))
  | .field | .member => s.worked e.name
  | .constant => .ok (ofText? e.doc)

/-- An entry as the kind that it was sought in has it. -/
def takeOfKind (k owner : Kind) (e : Entry) : Subject :=
  match e.form with
  | .ofKind => bound owner e (kind k)
  | .free | .loose => bound owner e (kind owner)
  | .constant => ofText? e.doc
  | _ => entry owner e

/-- What a kind has under a name, as a value and as a kind. -/
def askKind (k : Kind) (name : String) : Except ReflectionFault Subject :=
  let outer := find? kindKind name
  match outer.filter fun o => o.2.form = .field || o.2.form = .member, find? k name, outer with
  | some _, _, _ => (kind k).worked name
  | none, some (owner, e), _ => .ok (takeOfKind k owner e)
  | none, none, some (owner, e) => (kind k).take owner e
  | none, none, none => .error (.unknownOfKind k.name name)

/-- What a value has under a name. -/
def ask (s : Subject) (name : String) : Except ReflectionFault Subject :=
  match s, name with
  | applied _ _, "__class__" => .ok (kind s.kindOf)
  | applied k _, "__origin__" => .ok (kind k)
  | kind k, name | applied k _, name => askKind k name
  | s, name => match find? s.kindOf name with
    | some (owner, e) => s.take owner e
    | none => .error (.unknownEntry s.kindName name)

/-! ### Places -/

/-- Whether a kind takes an item in brackets. -/
def isGeneric (k : Kind) : Bool := k.name == kindKind.name || (k.find? "__class_getitem__").isSome

/-- What an item in brackets makes of a value that has neither places nor names. -/
def withItem (s : Subject) (item : String) : Except ReflectionFault Subject :=
  match s with
  | kind k => if isGeneric k then .ok (applied k item) else .error (.noPlacesOfKind k.name)
  | applied .. => .error (.notGeneric (String.ofList s.display))
  | s => .error (.noPlaces s.kindName)

def atPlace (s : Subject) (n : Nat) : Except ReflectionFault Subject :=
  match s with
  | text cs => match (codes cs)[n]? with
    | some code => .ok (text (spell code))
    | none => .error (.placeRange "string")
  | sequence ks => match ks[n]? with
    | some k => .ok (kind k)
    | none => .error (.placeRange "tuple")
  | contents _ => .error (.unknownKey (toString n))
  | s => s.withItem (toString n)

def atWord (s : Subject) (word : String) : Except ReflectionFault Subject :=
  match s with
  | text _ => .error (.wordPlace "string indices must be integers, not 'str'")
  | sequence _ => .error (.wordPlace "tuple indices must be integers or slices, not str")
  | contents k => match k.find? word with
    | some e => .ok (if e.form = .constant then ofText? e.doc else entry k e)
    | none => .error (.unknownKey (quoted word))
  | s => s.withItem (quoted word)

end Subject
end Reflection
end AgentGateway.Text
