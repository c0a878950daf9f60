import AgentGateway.Text.Literal.Grammar
import AgentGateway.Text.Literal.Filling

/-! The grammar of expressions, with the mistakes that are told by their own words. There
are no square brackets, since a tag cannot hold them. -/
namespace AgentGateway.Text.Literal

inductive Rule where
  | whole
  | expressions
  | expression
  | quietExpression
  | yielding
  | starExpressions
  | starExpression
  | starNamedExpressions
  | starNamedExpression
  | assignment
  | namedExpression
  | disjunction
  | conjunction
  | inversion
  | comparison
  | bitOr
  | bitXor
  | bitAnd
  | shift
  | sum
  | term
  | factor
  | power
  | awaited
  | primary
  | atom
  | texts
  | group
  | tuple
  | set
  | dict
  | pairs
  | pairOrSpread
  | pair
  | clause
  | generator
  | setComprehension
  | dictComprehension
  | function
  | parameters
  | plainParameters
  | slashPlain
  | slashDefault
  | starParameters
  | spreadParameter
  | parameterPlain
  | parameterDefault
  | parameterMaybe
  | defaultValue
  | arguments
  | args
  | keywordArguments
  | starredExpression
  | keywordOrStarred
  | keywordOrSpread
  | targets
  | target
  | targetAtom
  | starAtom
  | lookedUp
  | wrongExpression
  | wrongStatement
  | wrongNamed
  | wrongGroup
  | wrongComprehension
  | wrongDictComprehension
  | wrongPairs
  | wrongPair
  | wrongTarget
  | wrongArguments
  | wrongKeyword
  | wrongParameters
  | wrongParametersStart
  | wrongStarParameters
  | wrongSpreadParameter
  | wrongDefault
deriving DecidableEq, Repr

namespace Expression

abbrev Part := Phrase Rule

/-! ### Phrases -/

def seq : List Part → Part
  | [] => .nothing
  | [a] => a
  | a :: rest => .both a (seq rest)

def any : List Part → Part
  | [] => .nothing
  | [a] => a
  | a :: rest => .either a (any rest)

def sign (s : String) : Part := .oneOf .sign [s]

def signs (ss : List String) : Part := .oneOf .sign ss

def rule (r : Rule) : Part := .rule r

def name : Part := .kind .name

def comma : Part := sign ","

def oneOrMore (a : Part) : Part := .both a (.many a)

/-- One or more, with commas between them. -/
def listed (a : Part) : Part := .both a (.many (.both comma a))

def expr : Part := rule .expression

/-- An expression that no assignment begins with. -/
def unassigned : Part := seq [expr, .notAhead (sign ":=")]

def assignedOrNot : Part := any [rule .assignment, unassigned]

/-! ### Alternatives -/

abbrev Choice := Alternative Rule

def make (s : Shape) (ps : List Part) : Choice := ⟨seq ps, none, .node s, false⟩

def same (ps : List Part) : Choice := ⟨seq ps, none, .same, false⟩

/-- Mistakes that a rule describes. -/
def mistakes (ps : List Part) : Choice := ⟨seq ps, none, .same, true⟩

def report (ps : List Part) (fault? : List Tree → Token → Option String) : Choice :=
  ⟨seq ps, none, .report fault?, false⟩

def wrong (ps : List Part) (message : String) : Choice := report ps fun _ _ => some message

/-! ### Words for mistakes -/

/-- What an expression is called. -/
def called : Tree → String
  | .leaf t => t.text
  | .node s parts => match s with
    | .name => "name"
    | .member => "attribute"
    | .starred => "starred"
    | .tuple => "tuple"
    | .function => "lambda"
    | .call => "function call"
    | .generator => "generator expression"
    | .yielding => "yield expression"
    | .awaiting => "await expression"
    | .setComprehension => "set comprehension"
    | .dictComprehension => "dict comprehension"
    | .dict => "dict literal"
    | .set => "set display"
    | .comparison => "comparison"
    | .conditional => "conditional expression"
    | .assignment => "named expression"
    | .constant =>
      let word := ((Tree.node s parts).words.head?).getD ""
      if word = "..." then "ellipsis" else word
    | .number => "literal"
    | .text =>
      if (Tree.node s parts).words.any fun w => (Quotation.ofToken w.toList).isFilled
      then "f-string expression" else "literal"
    | _ => "expression"

def firstNode (parts : List Tree) : Tree := ((parts.filter Tree.isNode).head?).getD default

def nameOf? : Tree → Option String
  | .node .name [.leaf t] => some t.text
  | .leaf t => if t.kind = .name then some t.text else none
  | _ => none

/-- Names of old statements. -/
def isOldStatement (t : Tree) : Bool := (nameOf? t).any fun n => n == "print" || n == "exec"

mutual
/-- The first part of a target that nothing can be assigned to. -/
def badTarget? : Tree → Option Tree
  | .node .tuple parts => badTargetAmong? parts
  | .node .starred parts => badTargetAmong? parts
  | .node .comparison parts => match parts with
    | left :: .leaf t :: _ => if t.text = "in" then badTarget? left else none
    | _ => none
  | .node .name _ | .node .member _ | .leaf _ => none
  | t => some t
def badTargetAmong? : List Tree → Option Tree
  | [] => none
  | t :: rest => (badTarget? t).or (badTargetAmong? rest)
end

def digitLimit : Nat := 4300

/-- A whole number in decimal digits may not have too many of them. -/
def numberMistake? (parts : List Tree) : Option Mistake :=
  let text := (((Tree.node .number parts).words.head?).getD "").toList
  let digits := text.filter (· != '_')
  if digits.all Char.isDigit ∧ digitLimit < digits.length then
    some <| .own (s!"Exceeds the limit ({digitLimit} digits) for integer string conversion: value has " ++
      s!"{digits.length} digits; use sys.set_int_max_str_digits() to increase the limit - Consider " ++
      "hexadecimal for huge integer literals to avoid decimal conversion limits.")
  else none

/-- What is wrong with quotations in a row, `check` looking at expressions in them. -/
def mistakeAmong? (check : Filling.Check) (isBytes : Bool) : List (Nat × Quotation) → Option Mistake
  | [] => none
  | (line, q) :: rest =>
    (q.fault?.map Mistake.own).or <|
      if q.isBytes != isBytes then some (.own "cannot mix bytes and nonbytes literals")
      else (if q.isFilled then Filling.mistake? check line q else none).or
        (mistakeAmong? check isBytes rest)

def textMistake? (check : Filling.Check) (parts : List Tree) : Option Mistake :=
  let quotations := parts.filterMap fun
    | .leaf t => some (t.line, Quotation.ofToken t.text.toList)
    | .node .. => none
  mistakeAmong? check (quotations.head?.any fun q => q.2.isBytes) quotations

def forgottenComma : String := "invalid syntax. Perhaps you forgot a comma?"

def meantEquality : String := "invalid syntax. Maybe you meant '==' or ':=' instead of '='?"

def bareGenerator : String := "Generator expression must be parenthesized"

def starredValue : String := "cannot use a starred expression in a dictionary value"

def missingValue : String := "expression expected after dictionary key and ':'"

def bareTarget : String := "did you forget parentheses around the comprehension target?"

/-- How many arguments have their place by their order. -/
def placedCount (t : Tree) : Nat :=
  t.nodes.countP fun a => a.shape? != some .keyword && a.shape? != some .spread

/-! ### Rules -/

def leftChain (first : Rule) (ops : List String) (s : Shape) : Body Rule :=
  .chain (rule first) (ops.map fun op => (seq [sign op, rule first], s))

/-- What may stand behind a primary. -/
def suffixes (behind : Part) : List (Part × Shape) :=
  [(seq [sign ".", name, behind], .member), (seq [rule .generator, behind], .call),
    (seq [sign "(", .maybe (rule .arguments), sign ")", behind], .call)]

def lookup : Part := signs ["(", "."]

/-- Rules for operators and what they stand between. -/
def operators : Rule → Option (Body Rule)
  | .disjunction => some <| .choice
    [make .operation [rule .conjunction, oneOrMore (seq [sign "or", rule .conjunction])],
      same [rule .conjunction]]
  | .conjunction => some <| .choice
    [make .operation [rule .inversion, oneOrMore (seq [sign "and", rule .inversion])],
      same [rule .inversion]]
  | .inversion => some <| .choice
    [make .operation [sign "not", rule .inversion], same [rule .comparison]]
  | .comparison => some <| .choice
    [make .comparison [rule .bitOr, oneOrMore (seq [any [signs ["==", "!=", "<=", "<", ">=", ">"],
        seq [sign "not", sign "in"], sign "in", seq [sign "is", sign "not"], sign "is"],
        rule .bitOr])],
      same [rule .bitOr]]
  | .bitOr => some <| leftChain .bitXor ["|"] .operation
  | .bitXor => some <| leftChain .bitAnd ["^"] .operation
  | .bitAnd => some <| leftChain .shift ["&"] .operation
  | .shift => some <| leftChain .sum ["<<", ">>"] .operation
  | .sum => some <| leftChain .term ["+", "-"] .sum
  | .term => some <| leftChain .factor ["*", "/", "//", "%", "@"] .operation
  | .factor => some <| .choice
    [make .signed [signs ["+", "-"], rule .factor], make .operation [sign "~", rule .factor],
      same [rule .power]]
  | .power => some <| .choice
    [make .operation [rule .awaited, sign "**", rule .factor], same [rule .awaited]]
  | .awaited => some <| .choice
    [make .awaiting [sign "await", rule .primary], same [rule .primary]]
  | .primary => some <| .chain (rule .atom) (suffixes .nothing)
  | _ => none

/-- Rules for values and groups of values. -/
def values : Rule → Option (Body Rule)
  | .atom => some <| .choice
    [make .name [name], make .constant [signs ["True", "False", "None"]], same [rule .texts],
      ⟨.kind .number, none, .checked .number numberMistake?, false⟩,
      same [.ahead (sign "("), any [rule .tuple, rule .group, rule .generator]],
      same [.ahead (sign "\x7b"),
        any [rule .dict, rule .set, rule .dictComprehension, rule .setComprehension]],
      make .constant [sign "..."]]
  | .group => some <| .choice
    [same [sign "(", any [rule .yielding, rule .namedExpression], sign ")"],
      mistakes [rule .wrongGroup]]
  | .tuple => some <| .choice
    [make .tuple [sign "(", .maybe (seq [rule .starNamedExpression, comma,
      .maybe (rule .starNamedExpressions)]), sign ")"]]
  | .set => some <| .choice [make .set [sign "\x7b", rule .starNamedExpressions, sign "\x7d"]]
  | .dict => some <| .choice
    [make .dict [sign "\x7b", .maybe (rule .pairs), sign "\x7d"],
      same [sign "\x7b", rule .wrongPairs, sign "\x7d"]]
  | .pairs => some <| .choice [same [listed (rule .pairOrSpread), .maybe comma]]
  | .pairOrSpread => some <| .choice
    [make .spread [sign "**", rule .bitOr], same [rule .pair]]
  | .pair => some <| .choice [make .pair [expr, sign ":", expr]]
  | .clause => some <| .choice
    [⟨seq [.maybe (sign "async"), sign "for", rule .targets, sign "in"],
        some (seq [rule .disjunction, .many (seq [sign "if", rule .disjunction])]),
        .node .clause, false⟩,
      mistakes [rule .wrongTarget]]
  | .generator => some <| .choice
    [make .generator [sign "(", assignedOrNot, oneOrMore (rule .clause), sign ")"],
      mistakes [rule .wrongComprehension]]
  | .setComprehension => some <| .choice
    [make .setComprehension [sign "\x7b", rule .namedExpression, oneOrMore (rule .clause), sign "\x7d"],
      mistakes [rule .wrongComprehension]]
  | .dictComprehension => some <| .choice
    [make .dictComprehension [sign "\x7b", rule .pair, oneOrMore (rule .clause), sign "\x7d"],
      mistakes [rule .wrongDictComprehension]]
  | _ => none

/-- Rules for the parameters of a function. -/
def functions : Rule → Option (Body Rule)
  | .function => some <| .choice
    [make .function [sign "lambda", .maybe (rule .parameters), sign ":", expr]]
  | .parameters => some <| .choice
    [mistakes [rule .wrongParameters], same [rule .plainParameters]]
  | .plainParameters => some <| .choice
    [same [rule .slashPlain, .many (rule .parameterPlain), .many (rule .parameterDefault),
        .maybe (rule .starParameters)],
      same [rule .slashDefault, .many (rule .parameterDefault), .maybe (rule .starParameters)],
      same [oneOrMore (rule .parameterPlain), .many (rule .parameterDefault),
        .maybe (rule .starParameters)],
      same [oneOrMore (rule .parameterDefault), .maybe (rule .starParameters)],
      same [rule .starParameters]]
  | .slashPlain => some <| .choice
    [same [oneOrMore (rule .parameterPlain), sign "/", comma],
      same [oneOrMore (rule .parameterPlain), sign "/", .ahead (sign ":")]]
  | .slashDefault => some <| .choice
    [same [.many (rule .parameterPlain), oneOrMore (rule .parameterDefault), sign "/", comma],
      same [.many (rule .parameterPlain), oneOrMore (rule .parameterDefault), sign "/",
        .ahead (sign ":")]]
  | .starParameters => some <| .choice
    [mistakes [rule .wrongStarParameters],
      same [sign "*", rule .parameterPlain, .many (rule .parameterMaybe),
        .maybe (rule .spreadParameter)],
      same [sign "*", comma, oneOrMore (rule .parameterMaybe), .maybe (rule .spreadParameter)],
      same [rule .spreadParameter]]
  | .spreadParameter => some <| .choice
    [mistakes [rule .wrongSpreadParameter], same [sign "**", rule .parameterPlain]]
  | .parameterPlain => some <| .choice
    [same [name, comma], same [name, .ahead (sign ":")]]
  | .parameterDefault => some <| .choice
    [same [name, rule .defaultValue, comma], same [name, rule .defaultValue, .ahead (sign ":")]]
  | .parameterMaybe => some <| .choice
    [same [name, .maybe (rule .defaultValue), comma],
      same [name, .maybe (rule .defaultValue), .ahead (sign ":")]]
  | .defaultValue => some <| .choice
    [same [sign "=", expr], mistakes [rule .wrongDefault]]
  | .wrongDefault => some <| .choice
    [wrong [sign "=", .ahead (signs [")", ","])] "expected default value expression"]
  | .wrongParameters => some <| .choice
    [wrong [.many (rule .parameterPlain), rule .wrongParametersStart, rule .parameterPlain]
        "non-default argument follows default argument",
      wrong [.many (rule .parameterPlain), sign "(", listed name, .maybe comma, sign ")"]
        "Lambda expression parameters cannot be parenthesized",
      wrong [sign "/", comma] "at least one argument must precede /",
      wrong [any [rule .slashPlain, rule .slashDefault], .many (rule .parameterMaybe), sign "/"]
        "/ may appear only once",
      wrong [.maybe (any [rule .slashPlain, rule .slashDefault]), .many (rule .parameterMaybe),
          sign "*", any [comma, rule .parameterPlain], .many (rule .parameterMaybe), sign "/"]
        "/ must be ahead of *",
      wrong [oneOrMore (rule .parameterMaybe), sign "/", sign "*"] "expected comma between / and *"]
  | .wrongParametersStart => some <| .choice
    [same [rule .slashDefault], same [oneOrMore (rule .parameterDefault)]]
  | .wrongStarParameters => some <| .choice
    [wrong [sign "*", any [sign ":", seq [comma, signs [":", "**"]]]]
        "named arguments must follow bare *",
      wrong [sign "*", name, sign "="] "var-positional argument cannot have default value",
      wrong [sign "*", any [rule .parameterPlain, comma], .many (rule .parameterMaybe), sign "*",
        any [rule .parameterPlain, comma]] "* argument may appear only once"]
  | .wrongSpreadParameter => some <| .choice
    [wrong [sign "**", name, sign "="] "var-keyword argument cannot have default value",
      wrong [sign "**", name, comma, name] "arguments cannot follow var-keyword argument",
      wrong [sign "**", name, comma, signs ["*", "**", "/"]]
        "arguments cannot follow var-keyword argument"]
  | _ => none

/-- An argument whose place is told by the order. -/
def placed : Part :=
  any [rule .starredExpression, seq [assignedOrNot, .notAhead (sign "=")]]

/-- Rules for calls. -/
def calls : Rule → Option (Body Rule)
  | .arguments => some <| .choice
    [same [rule .args, .maybe comma, .ahead (sign ")")], mistakes [rule .wrongArguments]]
  | .args => some <| .choice
    [make .arguments [listed placed, .maybe (seq [comma, rule .keywordArguments])],
      make .arguments [rule .keywordArguments]]
  | .keywordArguments => some <| .choice
    [same [listed (rule .keywordOrStarred), comma, listed (rule .keywordOrSpread)],
      same [listed (rule .keywordOrStarred)], same [listed (rule .keywordOrSpread)]]
  | .starredExpression => some <| .choice
    [make .starred [sign "*", expr], wrong [sign "*"] "Invalid star expression"]
  | .keywordOrStarred => some <| .choice
    [mistakes [rule .wrongKeyword], make .keyword [name, sign "=", expr],
      same [rule .starredExpression]]
  | .keywordOrSpread => some <| .choice
    [mistakes [rule .wrongKeyword], make .keyword [name, sign "=", expr],
      make .spread [sign "**", expr]]
  | .wrongArguments => some <| .choice
    [wrong [any [seq [listed placed, comma, rule .keywordArguments], rule .keywordArguments], comma,
          listed (seq [rule .starredExpression, .notAhead (sign "=")])]
        "iterable argument unpacking follows keyword argument unpacking",
      wrong [expr, oneOrMore (rule .clause), comma,
        .maybe (any [rule .args, seq [expr, oneOrMore (rule .clause)]])] bareGenerator,
      wrong [name, sign "=", expr, oneOrMore (rule .clause)] meantEquality,
      report [rule .args, oneOrMore (rule .clause)] fun parts _ =>
        if placedCount (firstNode parts) ≤ 1 then none else some bareGenerator,
      wrong [rule .args, comma, expr, oneOrMore (rule .clause)] bareGenerator,
      report [rule .args, comma, rule .args] fun parts _ =>
        some (if (firstNode parts).nodes.any fun a => a.shape? == some .spread
          then "positional argument follows keyword argument unpacking"
          else "positional argument follows keyword argument")]
  | .wrongKeyword => some <| .choice
    [report [signs ["True", "False", "None"], sign "="] fun parts _ =>
        some s!"cannot assign to {called (parts.head?.getD default)}",
      wrong [name, sign "=", expr, oneOrMore (rule .clause)] meantEquality,
      wrong [.notAhead (seq [name, sign "="]), expr, sign "="]
        "expression cannot contain assignment, perhaps you meant \"==\"?"]
  | _ => none

/-- Rules for what a comprehension assigns to. -/
def targetRules : Rule → Option (Body Rule)
  | .targets => some <| .choice
    [same [rule .target, .notAhead comma],
      make .tuple [rule .target, .many (seq [comma, rule .target]), .maybe comma]]
  | .target => some <| .choice
    [make .starred [sign "*", .notAhead (sign "*"), rule .target], same [rule .targetAtom]]
  | .targetAtom => some <| .choice
    [make .member [rule .lookedUp, sign ".", name, .notAhead lookup], same [rule .starAtom]]
  | .starAtom => some <| .choice
    [make .name [name], same [sign "(", rule .targetAtom, sign ")"],
      make .tuple [sign "(", .maybe (any
        [seq [rule .target, oneOrMore (seq [comma, rule .target]), .maybe comma],
          seq [rule .target, comma]]), sign ")"]]
  | .lookedUp => some <| .chain (seq [rule .atom, .ahead lookup]) (suffixes (.ahead lookup))
  | .wrongTarget => some <| .choice
    [report [.maybe (sign "async"), sign "for", rule .starExpressions] fun parts _ =>
      (badTarget? (firstNode parts)).map fun t => s!"cannot assign to {called t}"]
  | _ => none

/-- Names that are words in other places, and the beginnings of such names. -/
def doubtfulNames : List String :=
  ["_", "c", "ca", "cas", "case", "m", "ma", "mat", "matc", "match"]

/-- Rules for whole expressions and mistakes in them. -/
def wholes : Rule → Body Rule
  | .whole => .choice [same [rule .expressions, .many (.kind .newline), .kind .finish]]
  | .expressions => .choice
    [make .tuple [expr, oneOrMore (seq [comma, expr]), .maybe comma], make .tuple [expr, comma],
      same [expr]]
  | .expression => .choice
    [mistakes [rule .wrongExpression], mistakes [rule .wrongStatement],
      make .conditional [rule .disjunction, sign "if", rule .disjunction, sign "else", expr],
      same [rule .disjunction], same [rule .function]]
  | .quietExpression => .choice
    [make .conditional [rule .disjunction, sign "if", rule .disjunction, sign "else", expr],
      same [rule .disjunction], same [rule .function]]
  | .yielding => .choice
    [make .yielding [sign "yield", sign "from", expr],
      make .yielding [sign "yield", .maybe (rule .starExpressions)]]
  | .starExpressions => .choice
    [make .tuple [rule .starExpression, oneOrMore (seq [comma, rule .starExpression]), .maybe comma],
      make .tuple [rule .starExpression, comma], same [rule .starExpression]]
  | .starExpression => .choice [make .starred [sign "*", rule .bitOr], same [expr]]
  | .starNamedExpressions => .choice [same [listed (rule .starNamedExpression), .maybe comma]]
  | .starNamedExpression => .choice
    [make .starred [sign "*", rule .bitOr], same [rule .namedExpression]]
  | .assignment => .choice [⟨seq [name, sign ":="], some expr, .node .assignment, false⟩]
  | .namedExpression => .choice
    [same [rule .assignment], mistakes [rule .wrongNamed], same [unassigned]]
  | .wrongExpression => .choice
    [report [.notAhead (any [seq [name, .kind .quoted], .oneOf .name doubtfulNames]),
          rule .disjunction, rule .quietExpression] fun parts last =>
        if isOldStatement (firstNode parts) || last.level == 0 then none else some forgottenComma,
      wrong [rule .disjunction, sign "if", rule .disjunction, .notAhead (signs ["else", ":"])]
        "expected 'else' after 'if' expression"]
  | .wrongStatement => .choice
    [report [name, .notAhead (sign "("), rule .starExpressions] fun parts _ =>
      let statement := ((parts.head?).bind nameOf?).getD ""
      if isOldStatement (parts.head?.getD default)
      then some s!"Missing parentheses in call to '{statement}'. Did you mean {statement}(...)?"
      else none]
  | .wrongNamed => .choice
    [report [expr, sign ":=", expr] fun parts _ =>
        some s!"cannot use assignment expressions with {called (firstNode parts)}",
      wrong [name, sign "=", rule .bitOr, .notAhead (signs ["=", ":="])] meantEquality,
      report [.notAhead (any [rule .tuple, rule .generator, signs ["True", "None", "False"]]),
          rule .bitOr, sign "=", rule .bitOr, .notAhead (signs ["=", ":="])] fun parts _ =>
        some s!"cannot assign to {called (firstNode parts)} here. Maybe you meant '==' instead of '='?"]
  | .wrongGroup => .choice
    [wrong [sign "(", rule .starredExpression, sign ")"] "cannot use starred expression here",
      wrong [sign "(", sign "**", expr, sign ")"] "cannot use double starred expression here"]
  | .wrongComprehension => .choice
    [wrong [signs ["(", "\x7b"], rule .starredExpression, oneOrMore (rule .clause)]
        "iterable unpacking cannot be used in comprehension",
      wrong [sign "\x7b", rule .starNamedExpression, comma, rule .starNamedExpressions,
        oneOrMore (rule .clause)] bareTarget,
      wrong [sign "\x7b", rule .starNamedExpression, comma, oneOrMore (rule .clause)] bareTarget]
  | .wrongDictComprehension => .choice
    [wrong [sign "\x7b", sign "**", rule .bitOr, oneOrMore (rule .clause), sign "\x7d"]
      "dict unpacking cannot be used in dict comprehension"]
  | .wrongPairs => .choice
    [same [listed (rule .pairOrSpread), comma, rule .wrongPair],
      wrong [expr, sign ":", sign "*", rule .bitOr] starredValue,
      wrong [expr, sign ":", .ahead (signs ["\x7d", ","])] missingValue]
  | .wrongPair => .choice
    [wrong [expr, .notAhead (sign ":")] "':' expected after dictionary key",
      wrong [expr, sign ":", sign "*", rule .bitOr] starredValue,
      wrong [expr, sign ":", .ahead (signs ["\x7d", ","])] missingValue]
  | _ => .choice []

def body (check : Filling.Check) (r : Rule) : Body Rule :=
  if r = .texts then
    .choice [⟨oneOrMore (.kind .quoted), none, .checked .text (textMistake? check), false⟩]
  else
    (((operators r).or (values r)).or ((functions r).or ((calls r).or (targetRules r)))).getD
      (wholes r)

/-- Rules that are asked for again and again at one place. -/
def remembered : List Rule :=
  [.expression, .starExpression, .disjunction, .conjunction, .inversion, .bitOr, .bitXor, .bitAnd,
    .shift, .sum, .term, .factor, .awaited, .primary, .texts, .arguments, .target, .targetAtom,
    .lookedUp, .wrongNamed]

/-- The grammar, `check` looking at expressions in texts that are to be filled in. -/
def grammar (check : Filling.Check) : Grammar Rule :=
  ⟨body check, (remembered.contains ·), (· == .quietExpression)⟩

/-- Look at an expression in a text that is to be filled in, with others in it so many texts
deep. -/
def checkFilled : Nat → Filling.Check
  | 0, _, _ => .ok ()
  | depth + 1, line, s =>
    match (grammar (checkFilled depth)).read .starExpressions line ('(' :: (s ++ [')', '\n'])) with
    | .ok _ => .ok ()
    | .error m => .error (.whole (m.text "f-string: "))

/-- Read an expression. -/
def read (s : List Char) : Read Tree :=
  ((grammar (checkFilled s.length)).read .whole 1 s).mapError (Mistake.text "")

end Expression
end AgentGateway.Text.Literal
