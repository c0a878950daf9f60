import AgentGateway.Text.Literal.Token

/-! Grammars that also tell what is wrong.

A rule has alternatives that are tried in order. Some of them describe mistakes: they count
only when a text is read a second time, after it could not be read as it should be, and
where one of them fits, reading ends with its message. Some rules remember what became of
them at a place. -/
namespace AgentGateway.Text.Literal

/-- What a part of an expression is. -/
inductive Shape where
  | name
  | number
  | text
  | constant
  | tuple
  | set
  | dict
  | pair
  | spread
  | setComprehension
  | dictComprehension
  | generator
  | clause
  | call
  | arguments
  | keyword
  | starred
  | member
  | sum
  | operation
  | signed
  | comparison
  | conditional
  | function
  | yielding
  | awaiting
  | assignment
deriving DecidableEq, Repr

inductive Tree where
  | leaf (t : Token)
  | node (s : Shape) (parts : List Tree)
deriving Repr, Inhabited

namespace Tree

def isNode : Tree → Bool
  | leaf _ => false
  | node .. => true

def shape? : Tree → Option Shape
  | leaf _ => none
  | node s _ => some s

/-- The parts that are no bare tokens. -/
def nodes : Tree → List Tree
  | leaf _ => []
  | node _ parts => parts.filter isNode

/-- The texts of the parts that are bare tokens. -/
def words : Tree → List String
  | leaf t => [t.text]
  | node _ parts => parts.filterMap fun
    | leaf t => some t.text
    | node .. => none

end Tree

/-! ### Rules -/

/-- What tokens in a row may look like, with rules under their names. -/
inductive Phrase (Rule : Type) where
  | nothing
  | kind (k : Kind)
  | oneOf (k : Kind) (texts : List String)
  | rule (r : Rule)
  | both (a b : Phrase Rule)
  | either (a b : Phrase Rule)
  | maybe (a : Phrase Rule)
  | many (a : Phrase Rule)
  /-- A look at what follows, of which nothing is taken. -/
  | ahead (a : Phrase Rule)
  | notAhead (a : Phrase Rule)

/-- What is made of tokens that fit. -/
inductive Action where
  | node (s : Shape)
  /-- The parts as they are. -/
  | same
  /-- A part, unless there is something wrong with it. -/
  | checked (s : Shape) (fault? : List Tree → Option Mistake)
  /-- A mistake. Where it is none after all, no other alternative is tried. -/
  | report (fault? : List Tree → Token → Option String)

structure Alternative (Rule : Type) where
  phrase : Phrase Rule
  /-- What has to follow once the phrase fits; no other alternative is tried then. -/
  committed : Option (Phrase Rule)
  action : Action
  /-- Whether it describes a mistake. -/
  diagnosis : Bool

/-- What a rule stands for: a choice, or a part that links are put behind again and again. -/
inductive Body (Rule : Type) where
  | choice (alternatives : List (Alternative Rule))
  | chain (first : Phrase Rule) (links : List (Phrase Rule × Shape))

structure Grammar (Rule : Type) where
  body : Rule → Body Rule
  /-- Rules that remember what became of them. -/
  remembers : Rule → Bool
  /-- Rules in which no mistakes are looked for. -/
  isQuiet : Rule → Bool

/-! ### Reading -/

inductive Outcome where
  | fits (parts : List Tree) (next : Nat)
  | fails
  | wrong (m : Mistake)
deriving Inhabited

/-- What is known while reading. -/
structure Memory (Rule : Type) where
  /-- The last token that was looked at. -/
  reached : Nat
  /-- What became of rules, place by place. -/
  known : Array (List (Rule × Outcome))
  diagnosing : Bool

structure Source where
  tokens : Array Token
  stop : Option Stop

namespace Grammar
variable {Rule : Type} [DecidableEq Rule]

abbrev Reading (Rule : Type) := StateM (Memory Rule)

/-- Look at a token. Behind the last one there is what ended them. -/
def look (src : Source) (n : Nat) : Reading Rule (Except Mistake Token) := do
  modify fun m => { m with reached := max m.reached n }
  return match src.tokens[n]? with
  | some t => .ok t
  | none => .error ((src.stop.map Stop.mistake).getD (.own "unexpected EOF while parsing"))

/-- Take one token, if it is as it should be. -/
def take (src : Source) (n : Nat) (isFitting : Token → Bool) : Reading Rule Outcome := do
  match ← look src n with
  | .error m => return .wrong m
  | .ok t => return if isFitting t then .fits [.leaf t] (n + 1) else .fails

def finish (src : Source) (a : Action) (parts : List Tree) (next : Nat) : Outcome :=
  match a with
  | .node s => .fits [.node s parts] next
  | .same => .fits (parts.filter Tree.isNode) next
  | .checked s fault? => match fault? parts with
    | some m => .wrong m
    | none => .fits [.node s parts] next
  | .report fault? => match fault? parts ((src.tokens[next - 1]?).getD default) with
    | some message => .wrong (.own message)
    | none => .fails

mutual
/-- Read a phrase from a place on. -/
def run (g : Grammar Rule) (src : Source) : Nat → Phrase Rule → Nat → Reading Rule Outcome
  | 0, _, _ => return .fails
  | _ + 1, .nothing, n => return .fits [] n
  | _ + 1, .kind k, n => take src n fun t => t.kind = k
  | _ + 1, .oneOf k texts, n => take src n fun t => t.kind = k && texts.contains t.text
  | fuel + 1, .rule r, n => apply g src fuel r n
  | fuel + 1, .both a b, n => do
    match ← run g src fuel a n with
    | .fits parts next => match ← run g src fuel b next with
      | .fits more next => return .fits (parts ++ more) next
      | other => return other
    | other => return other
  | fuel + 1, .either a b, n => do
    match ← run g src fuel a n with
    | .fails => run g src fuel b n
    | other => return other
  | fuel + 1, .maybe a, n => do
    match ← run g src fuel a n with
    | .fails => return .fits [] n
    | other => return other
  | fuel + 1, .many a, n => do
    match ← run g src fuel a n with
    | .fails => return .fits [] n
    | .fits parts next =>
      match ← run g src fuel (.many a) next with
      | .fits more next => return .fits (parts ++ more) next
      | other => return other
    | other => return other
  | fuel + 1, .ahead a, n => do
    match ← run g src fuel a n with
    | .fits _ _ => return .fits [] n
    | other => return other
  | fuel + 1, .notAhead a, n => do
    match ← run g src fuel a n with
    | .fits _ _ => return .fails
    | .fails => return .fits [] n
    | other => return other
/-- Read by a rule from a place on. -/
def apply (g : Grammar Rule) (src : Source) : Nat → Rule → Nat → Reading Rule Outcome
  | 0, _, _ => return .fails
  | fuel + 1, r, n => do
    let before ← get
    match (if g.remembers r then (before.known[n]?.getD []).lookup r else none) with
    | some known => return known
    | none =>
      if g.isQuiet r then modify fun m => { m with diagnosing := false }
      let outcome ← match g.body r with
        | .choice alternatives => choose g src fuel alternatives n
        | .chain first links => do
          match ← run g src fuel first n with
          | .fits parts next => lengthen g src fuel links parts next
          | other => pure other
      modify fun m => { m with
        diagnosing := before.diagnosing
        known := if g.remembers r then m.known.modify n ((r, outcome) :: ·) else m.known }
      return outcome
/-- Read by the first alternative that fits. -/
def choose (g : Grammar Rule) (src : Source) :
    Nat → List (Alternative Rule) → Nat → Reading Rule Outcome
  | 0, _, _ => return .fails
  | _ + 1, [], _ => return .fails
  | fuel + 1, a :: rest, n => do
    if a.diagnosis && !(← get).diagnosing then choose g src fuel rest n
    else match ← run g src fuel a.phrase n with
      | .wrong m => return .wrong m
      | .fails => choose g src fuel rest n
      | .fits parts next => match a.committed with
        | none => return finish src a.action parts next
        | some more => match ← run g src fuel more next with
          | .fits others next => return finish src a.action (parts ++ others) next
          | other => return other
/-- Put links behind what has been read as long as one fits. -/
def lengthen (g : Grammar Rule) (src : Source) :
    Nat → List (Phrase Rule × Shape) → List Tree → Nat → Reading Rule Outcome
  | 0, _, parts, n => return .fits parts n
  | fuel + 1, links, parts, n => do
    match ← link g src fuel links n with
    | some (.inl (s, more, next)) =>
      lengthen g src fuel links [.node s (parts.filter Tree.isNode ++ more)] next
    | some (.inr m) => return .wrong m
    | none => return .fits (parts.filter Tree.isNode) n
/-- The first link that fits, or what is wrong with it. -/
def link (g : Grammar Rule) (src : Source) : Nat → List (Phrase Rule × Shape) → Nat →
    Reading Rule (Option ((Shape × List Tree × Nat) ⊕ Mistake))
  | 0, _, _ => return none
  | _ + 1, [], _ => return none
  | fuel + 1, (phrase, s) :: rest, n => do
    match ← run g src fuel phrase n with
    | .fits parts next => return some (.inl (s, parts, next))
    | .wrong m => return some (.inr m)
    | .fails => link g src fuel rest n
end

/-- What is told in place of a mistake: a firm reason for the end of the tokens, or a bracket
of an earlier line that is open there. -/
def settle (src : Source) (m : Memory Rule) (found : Mistake) : Mistake :=
  match src.tokens[m.reached]?, src.stop with
  | some last, some stop =>
    if stop.isFirm then stop.mistake
    else match stop.opening with
      | some o => if o.line < last.line then .own (neverClosed o) else found
      | none => found
  | _, _ => found

/-- What is told in place of a mistake that has words of its own. It stays where the end had
come in sight. -/
def settleTold (src : Source) (m : Memory Rule) (found : Mistake) : Mistake :=
  if src.stop.any Stop.isForeseen && m.reached + 1 == src.tokens.size then found
  else settle src m found

/-- Read a whole text, which begins in a line, by a rule: first as it should be, then for what is wrong with it. -/
def read (g : Grammar Rule) (start : Rule) (line : Nat) (s : List Char) : Except Mistake Tree := do
  let ts := tokens line s
  let src : Source := ⟨ts.list.toArray, ts.stop⟩
  let fuel := 200 * (ts.list.length + 2)
  let fresh (reached : Nat) (diagnosing : Bool) : Memory Rule :=
    ⟨reached, Array.replicate (ts.list.length + 1) [], diagnosing⟩
  let (first, m) := (apply g src fuel start 0).run (fresh 0 false)
  match first with
  | .fits parts _ => return parts.head?.getD default
  | .wrong found => throw (settleTold src m found)
  | .fails =>
    let last := (src.tokens[m.reached]?).getD default
    let (second, m) := (apply g src fuel start 0).run (fresh m.reached true)
    match second with
    | .wrong found => throw (settleTold src m found)
    | _ =>
      if last.kind = .indent then throw (.own "unexpected indent")
      else if last.kind = .dedent then throw (.own "unexpected unindent")
      else throw (settle src m (.own "invalid syntax"))

end Grammar
end AgentGateway.Text.Literal
