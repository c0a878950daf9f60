import AgentGateway.Settings
import AgentGateway.Settings.Environment

/-! Files of environment variables.

A line names a variable and, after `=`, its value: bare, or between single or
double quotes. A bare value ends at a blank before `#`. Escapes count only
between quotes. In a value, a name between `$` and braces stands for another
variable, with a default after `:-`. A line that cannot be read is skipped. A mark of
the byte order in front of the file is no part of it.

Loading a file puts its variables into an environment, one after another up to one that
no environment can hold. Those already there keep their values unless the file is to
override them. An environment may also forbid that files are loaded. -/
namespace AgentGateway.Settings.File
open Text

/-- A variable with its value, if its line has one. -/
abbrev Binding := String × Option String

def isBreak (c : Char) : Bool := c == '\n' || c == '\r'

/-- A blank within a line. -/
def isInnerBlank (c : Char) : Bool := isBlankOrSeparator c && !isBreak c

def skipInner (s : List Char) : List Char := s.dropWhile isInnerBlank

/-- Breaks of every kind as line feeds. -/
def normalize : List Char → List Char
  | [] => []
  | '\r' :: '\n' :: rest => '\n' :: normalize rest
  | '\r' :: rest => '\n' :: normalize rest
  | c :: rest => c :: normalize rest

def skipExport (s : List Char) : List Char :=
  match s with
  | 'e' :: 'x' :: 'p' :: 'o' :: 'r' :: 't' :: c :: rest =>
    if isInnerBlank c then skipInner rest else s
  | _ => s

/-- A variable's name, bare or between single quotes; a comment has none. -/
def key? (s : List Char) : Option (Option String × List Char) :=
  match s with
  | '#' :: _ => some (none, s)
  | '\'' :: rest =>
    let name := rest.takeWhile (· != '\'')
    if name.isEmpty ∨ name.length = rest.length then none
    else some (some (String.ofList name), rest.drop (name.length + 1))
  | _ =>
    let name := s.takeWhile fun c => c != '=' && c != '#' && !isBlankOrSeparator c
    if name.isEmpty then none else some (some (String.ofList name), s.drop name.length)

/-- The text up to a closing quote. A backslash and what follows it, which is no break,
belong together. -/
def quotedText? (quote : Char) : List Char → Option (List Char × List Char)
  | [] => none
  | ['\\'] => none
  | '\\' :: c :: rest =>
    if c = '\n' then none else (quotedText? quote rest).map fun r => ('\\' :: c :: r.1, r.2)
  | c :: rest =>
    if c = quote then some ([], rest) else (quotedText? quote rest).map fun r => (c :: r.1, r.2)

/-- What an escape between double quotes stands for. -/
def escaped? (c : Char) : Option Char :=
  match c with
  | '\\' => some '\\'
  | '\'' => some '\''
  | '"' => some '"'
  | 'a' => some '\x07'
  | 'b' => some '\x08'
  | 'f' => some '\x0c'
  | 'n' => some '\n'
  | 'r' => some '\r'
  | 't' => some '\t'
  | 'v' => some '\x0b'
  | _ => none

def escapedInSingle? (c : Char) : Option Char := if c = '\\' ∨ c = '\'' then some c else none

def unescape (meaning : Char → Option Char) : List Char → List Char
  | [] => []
  | '\\' :: c :: rest =>
    match meaning c with
    | some d => d :: unescape meaning rest
    | none => '\\' :: unescape meaning (c :: rest)
  | c :: rest => c :: unescape meaning rest
termination_by s => s.length

/-- A bare value without its comment and the blanks around it. -/
def bare (line : List Char) : List Char :=
  let rec cut : List Char → List Char
    | [] => []
    | c :: rest =>
      if isBlankOrSeparator c && (rest.dropWhile isBlankOrSeparator).head? == some '#' then []
      else c :: cut rest
  trimBy isBlankOrSeparator (cut line)

/-- The value behind the equals sign. -/
def value? (s : List Char) : Option (List Char × List Char) :=
  match skipInner s with
  | '\'' :: rest => (quotedText? '\'' rest).map fun r => (unescape escapedInSingle? r.1, r.2)
  | '"' :: rest => (quotedText? '"' rest).map fun r => (unescape escaped? r.1, r.2)
  | _ =>
    let line := s.takeWhile fun c => !isBreak c
    some (bare line, s.drop line.length)

/-- The rest of a line that may only hold a comment. -/
def lineEnd? (s : List Char) : Option (List Char) :=
  let s := match skipInner s with
    | '#' :: rest => rest.dropWhile fun c => !isBreak c
    | s => s
  match s with
  | [] => some []
  | c :: rest => if isBreak c then some rest else none

/-- A step of reading a line, or else the place where reading stopped. -/
def orStop {α : Type} (step : Option α) (s : List Char) : Except (List Char) α :=
  step.elim (.error s) .ok

/-- One line: a name and perhaps a value, or only a comment. -/
def line (s : List Char) : Except (List Char) (Option Binding × List Char) := do
  let s := skipExport s
  let (name, s) ← orStop (key? s) s
  let s := skipInner s
  let (value, s) ← match s with
    | '=' :: rest => do
      let (v, s) ← orStop (value? rest) (skipInner rest)
      pure (some (String.ofList v), s)
    | s => pure (none, s)
  let s ← orStop (lineEnd? s) s
  return (name.map fun n => (n, value), s)

/-- The lines of a file that can be read, in order. Where one cannot, reading goes
on at the next. -/
def bindings (s : List Char) : Nat → List Binding
  | 0 => []
  | fuel + 1 =>
    match s.dropWhile isBlankOrSeparator with
    | [] => []
    | s =>
      match line s with
      | .ok (b, rest) => b.toList ++ bindings rest fuel
      | .error rest => bindings ((rest.dropWhile fun c => !isBreak c).drop 1) fuel

/-- A text without a mark of the byte order in front. -/
def unmarked : List Char → List Char
  | '\ufeff' :: rest => rest
  | s => s

def read (text : String) : List Binding :=
  let s := normalize (unmarked text.toList)
  bindings s (s.length + 1)

/-! ### Other variables in a value -/

/-- A name with a default after `:-`, as it stands between braces. -/
def reference (s : List Char) : Option (String × String) :=
  let name := s.takeWhile (· != ':')
  match s.drop name.length with
  | [] => some (String.ofList name, "")
  | ':' :: '-' :: whenMissing => some (String.ofList name, String.ofList whenMissing)
  | _ => none

def expand (lookup : String → Option String) : List Char → List Char
  | [] => []
  | '$' :: '\x7b' :: rest =>
    let inside := rest.takeWhile (· != '\x7d')
    if inside.length = rest.length then '$' :: expand lookup ('\x7b' :: rest)
    else match reference inside with
      | some (name, whenMissing) =>
        ((lookup name).getD whenMissing).toList ++ expand lookup (rest.drop (inside.length + 1))
      | none => '$' :: expand lookup ('\x7b' :: rest)
  | c :: rest => c :: expand lookup rest
termination_by s => s.length
decreasing_by all_goals grind

/-- The values with other variables filled in, those of the file and those of the
environment; which of them counts more depends on overriding. -/
def resolve (override : Bool) (environment : Environment) :
    Keyed (Option String) → List Binding → Keyed (Option String)
  | done, [] => done
  | done, (name, value) :: rest =>
    let here (n : String) : Option String := (done.get? n).map fun v => v.getD ""
    let lookup (n : String) : Option String :=
      if override then (here n).orElse fun _ => environment.get? n
      else (environment.get? n).orElse fun _ => here n
    let value := value.map fun v => String.ofList (expand lookup v.toList)
    resolve override environment (done.put name value) rest

/-- Put variables with a value into an environment, up to one that it cannot hold. -/
def store (override : Bool) (environment : Environment) :
    Keyed (Option String) → Environment × Option Misuse
  | [] => (environment, none)
  | (name, value) :: rest =>
    match value.filter fun _ => override || !environment.has name with
    | none => store override environment rest
    | some v => match environment.assign name (.text v) with
      | .error f => (environment, some f)
      | .ok environment => store override environment rest

/-- The variable that forbids loading, and the values of it that count. -/
def disabling : String := "PYTHON_DOTENV_DISABLED"

def isDisabled (environment : Environment) : Bool :=
  (environment.get? disabling).any fun v => ["1", "TRUE", "T", "YES", "Y"].contains (Text.upper v)

/-- Put a file's variables into an environment that lets it. -/
def load (override : Bool) (text : String) (environment : Environment) :
    Environment × Option Misuse :=
  if isDisabled environment then (environment, none)
  else store override environment (resolve override environment [] (read text))

end AgentGateway.Settings.File
