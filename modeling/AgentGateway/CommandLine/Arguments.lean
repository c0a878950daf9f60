import AgentGateway.Text.Numeral

/-! The arguments of the command line.

`serve` takes one source and options in any order. An option's value follows it, or
is part of the same argument: after an equals sign behind a long name, right behind
a short one. Short options without a value may share one dash. Of an option that is
given more than once the last value counts, and everything after `--` is no option.
Before the command only `--version` and `--help` are known. -/
namespace AgentGateway

structure ServeArguments where
  source : String
  host : Option String
  port : Option Int
  name : Option String
  path : Option String
  config : Option String
  verbose : Bool
deriving DecidableEq, Repr

inductive Command where
  | serve (a : ServeArguments)
  | version
  | help
deriving DecidableEq, Repr

namespace Command

inductive Switch where
  | host
  | port
  | name
  | path
  | config
  | verbose
  | version
  | help
deriving DecidableEq, Repr

namespace Switch

def takesValue : Switch → Bool
  | verbose | version | help => false
  | _ => true

end Switch

/-- The options of a command by their long and their short names. -/
structure Options where
  long : List (String × Switch)
  short : List (Char × Switch)
  /-- Whether options may also follow other arguments. -/
  mixed : Bool

def Options.general : Options := ⟨[("--version", .version), ("--help", .help)], [], false⟩

def Options.serve : Options where
  long := [("--host", .host), ("--port", .port), ("--name", .name), ("--path", .path),
    ("--config", .config), ("--verbose", .verbose), ("--help", .help)]
  short := [('h', .host), ('p', .port), ('n', .name), ('v', .verbose)]
  mixed := true

/-! ### Reading options -/

/-- Options with their values, and how many of the following arguments they took. -/
structure Taken where
  given : List (Switch × String)
  count : Nat

/-- An option's value, its own or the following argument. -/
def valued (s : Switch) (own following : Option String) : Option Taken :=
  match own, following with
  | some v, _ => some ⟨[(s, v)], 0⟩
  | none, some v => some ⟨[(s, v)], 1⟩
  | none, none => none

/-- An argument that begins with the full name of an option. -/
def long? (o : Options) (name : String) (own following : Option String) : Option (Option Taken) :=
  (o.long.lookup name).map fun s =>
    if s.takesValue then valued s own following
    else if own.isSome then none
    else some ⟨[(s, "")], 0⟩

/-- Letters behind a single dash, up to one that takes the rest for its value. -/
def short? (o : Options) (following : Option String) : List Char → Option Taken
  | [] => some ⟨[], 0⟩
  | c :: rest => do
    let s ← o.short.lookup c
    if s.takesValue then
      valued s (if rest.isEmpty then none else some (String.ofList rest)) following
    else
      let more ← short? o following rest
      return { more with given := (s, "") :: more.given }

/-- An argument that begins with a dash. -/
def option? (o : Options) (argument : String) (following : Option String) : Option Taken :=
  let s := argument.toList
  let name := s.takeWhile (· != '=')
  let own := match s.drop name.length with
    | _ :: v => some (String.ofList v)
    | [] => none
  match long? o (String.ofList name) own following with
  | some taken => taken
  | none => if s.take 2 = ['-', '-'] then none else short? o following (s.drop 1)

structure Split where
  given : List (Switch × String)
  others : List String

def isOption (argument : String) : Bool := argument.startsWith "-" && argument != "-"

/-- Split arguments into options and the others; `none` when an option is unknown, has
a value it does not take, or lacks one. -/
def split? (o : Options) (arguments : List String) : Option Split :=
  match arguments with
  | [] => some ⟨[], []⟩
  | a :: rest =>
    if a = "--" then some ⟨[], rest⟩
    else if isOption a then do
      let taken ← option? o a rest.head?
      let more ← split? o (rest.drop taken.count)
      return ⟨taken.given ++ more.given, more.others⟩
    else if o.mixed then do
      let more ← split? o rest
      return ⟨more.given, a :: more.others⟩
    else some ⟨[], a :: rest⟩
termination_by arguments.length
decreasing_by all_goals grind

/-! ### Commands -/

def last? (given : List (Switch × String)) (s : Switch) : Option String := given.reverse.lookup s

/-- The port, if it is given; it must be a whole number. -/
def port? (given : List (Switch × String)) : Option (Option Int) :=
  match last? given .port with
  | none => some none
  | some s => (Text.wholeNumber? s).map some

def serve? (arguments : List String) : Option Command := do
  let s ← split? .serve arguments
  if (last? s.given .help).isSome then return help
  match s.others with
  | [source] =>
    return serve ⟨source, last? s.given .host, ← port? s.given, last? s.given .name,
      last? s.given .path, last? s.given .config, (last? s.given .verbose).isSome⟩
  | _ => none

/-- The command that arguments ask for; `none` when they cannot be read. -/
def read? (arguments : List String) : Option Command := do
  let s ← split? .general arguments
  match s.given, s.others with
  | (.version, _) :: _, _ => return version
  | _ :: _, _ => return help
  | [], "serve" :: rest => serve? rest
  | [], _ => none

end Command
end AgentGateway
