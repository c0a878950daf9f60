import AgentGateway.Text.Blank
import AgentGateway.Text.Printable
import AgentGateway.Text.Quoted
import AgentGateway.Text.Word

/-! The tokens of an expression: names, numbers, quoted texts and signs.

Brackets are followed as they open and close. Between brackets a line may end anywhere;
outside of them its end is a token of its own, and so is a change of what the next line is
set in by. -/
namespace AgentGateway.Text.Literal

inductive Kind where
  | name
  | number
  | quoted
  /-- A word that is no name, or a sign. -/
  | sign
  | newline
  | indent
  | dedent
  | finish
deriving DecidableEq, Repr, Inhabited

structure Token where
  kind : Kind
  text : String
  /-- How many brackets are open behind it. -/
  level : Nat
  line : Nat
deriving DecidableEq, Repr, Inhabited

/-- A bracket that is open, with its line. -/
structure Opening where
  sign : Char
  line : Nat
deriving DecidableEq, Repr

/-- What is wrong with a text: in words to which it is added where they are told from, or in
words that are told as they are. -/
inductive Mistake where
  | own (message : String)
  | whole (message : String)
deriving DecidableEq, Repr, Inhabited

def Mistake.text (origin : String) : Mistake → String
  | own message => origin ++ message
  | whole message => message

/-- Why reading tokens ended. -/
structure Stop where
  message : String
  /-- Whether it is told in place of mistakes that are found before it. -/
  isFirm : Bool
  /-- The innermost bracket that was open. -/
  opening : Option Opening
  /-- Whether it is the end of the text, which was seen when the last token was read. -/
  isForeseen : Bool
deriving DecidableEq, Repr

/-- What is wrong where tokens are missing. -/
def Stop.mistake (s : Stop) : Mistake := if s.isFirm then .whole s.message else .own s.message

/-- The tokens of a text up to its end, or up to where reading them ended. -/
structure Tokens where
  list : List Token
  stop : Option Stop
deriving DecidableEq, Repr

/-- What is read or why not, in words. -/
abbrev Read := Except String

/-! ### Numbers -/

def isNameSign (c : Char) : Bool := c.isAlphanum || c == '_' || 128 ≤ c.toNat

/-- Words that may stand right behind a number where they end as words do. -/
def wordsBehindNumbers : List String := ["and", "else", "for", "or", "not"]

/-- Beginnings that may stand right behind a number. -/
def beginningsBehindNumbers : List String := ["if", "in", "is"]

/-- Whether a text begins with a word. -/
def beginsWithWord (s w : List Char) : Bool :=
  w.isPrefixOf s && !(s.drop w.length).head?.any isNameSign

/-- Nothing else that could go on with a name may stand behind a number. -/
def checkEnd (kind : String) (s : List Char) : Read Unit :=
  if wordsBehindNumbers.any fun w => beginsWithWord s w.toList then .ok ()
  else if beginningsBehindNumbers.any fun w => w.toList.isPrefixOf s then .ok ()
  else match s with
    | c :: _ => if c.isAlphanum || c == '_' then .error s!"invalid {kind} literal" else .ok ()
    | [] => .ok ()

/-- What follows digits with single underscores between them. -/
def afterDigits : List Char → Read (List Char)
  | '_' :: c :: rest =>
    if c.isDigit then afterDigits rest else .error "invalid decimal literal"
  | ['_'] => .error "invalid decimal literal"
  | c :: rest => if c.isDigit then afterDigits rest else .ok (c :: rest)
  | [] => .ok []

/-- What follows an imaginary number, its letter having been read. -/
def afterImaginary (s : List Char) : Read (List Char) := (checkEnd "imaginary" s).map fun _ => s

def afterDecimal (s : List Char) : Read (List Char) :=
  match s with
  | 'j' :: rest | 'J' :: rest => afterImaginary rest
  | s => (checkEnd "decimal" s).map fun _ => s

/-- What follows an exponent, its letter included. -/
def afterExponent (s : List Char) : Read (List Char) :=
  match s.tail with
  | '+' :: rest | '-' :: rest =>
    match rest with
    | c :: rest =>
      if c.isDigit then do afterDecimal (← afterDigits rest) else .error "invalid decimal literal"
    | [] => .error "invalid decimal literal"
  | c :: rest =>
    if c.isDigit then do afterDecimal (← afterDigits rest)
    else (checkEnd "decimal" s).map fun _ => s
  | [] => (checkEnd "decimal" s).map fun _ => s

def isExponentSign (c : Char) : Bool := c == 'e' || c == 'E'

/-- What follows the digits in front of a point or of an exponent. -/
def afterWhole (s : List Char) : Read (List Char) := do
  let s ← match s with
    | '.' :: c :: rest => if c.isDigit then afterDigits rest else pure (c :: rest)
    | ['.'] => pure []
    | s => pure s
  if s.head?.any isExponentSign then afterExponent s else afterDecimal s

/-- What follows zeros with single underscores between them. -/
def afterZeros : List Char → Read (List Char)
  | '_' :: '0' :: rest => afterZeros rest
  | '_' :: c :: rest => if c.isDigit then .ok (c :: rest) else .error "invalid decimal literal"
  | ['_'] => .error "invalid decimal literal"
  | '0' :: rest => afterZeros rest
  | s => .ok s

def leadingZeros : String :=
  "leading zeros in decimal integer literals are not permitted; use an 0o prefix for octal integers"

/-- What follows a number that begins with a zero. -/
def afterZero (s : List Char) : Read (List Char) := do
  let s ← afterZeros s
  let nonzero := s.head?.any Char.isDigit
  let s ← if nonzero then afterDigits s.tail else pure s
  match s with
  | '.' :: _ => afterWhole s
  | c :: _ =>
    if isExponentSign c then afterExponent s
    else if c = 'j' ∨ c = 'J' then afterDecimal s
    else if nonzero then .error leadingZeros
    else afterDecimal s
  | [] => if nonzero then .error leadingZeros else .ok []

/-- What follows digits of another base, an underscore being allowed in front of each group
of them. -/
def afterBased (kind : String) (isDigit : Char → Bool) (s : List Char) : Nat → Read (List Char)
  | 0 => .ok s
  | fuel + 1 => do
    let wrong (c : Char) : String := s!"invalid digit '{c}' in {kind} literal"
    let s := match s with
      | '_' :: rest => rest
      | s => s
    match s with
    | [] => .error s!"invalid {kind} literal"
    | c :: rest =>
      if !isDigit c then .error (if c.isDigit then wrong c else s!"invalid {kind} literal")
      else match rest.dropWhile isDigit with
        | '_' :: more => afterBased kind isDigit ('_' :: more) fuel
        | d :: more =>
          if d.isDigit then .error (wrong d) else (checkEnd kind (d :: more)).map fun _ => d :: more
        | [] => .ok []

def isHexDigit (c : Char) : Bool := c.isDigit || ('a' ≤ c.toLower && c.toLower ≤ 'f')

/-- What follows a number, from its first digit or point on. -/
def afterNumber (s : List Char) : Read (List Char) :=
  match s with
  | '0' :: c :: rest =>
    let based (kind : String) (isDigit : Char → Bool) := afterBased kind isDigit rest (rest.length + 1)
    match c.toLower with
    | 'x' => based "hexadecimal" isHexDigit
    | 'o' => based "octal" fun d => '0' ≤ d && d ≤ '7'
    | 'b' => based "binary" fun d => d == '0' || d == '1'
    | _ => afterZero (c :: rest)
  | ['0'] => .ok []
  | '.' :: _ => afterWhole s
  | s => do afterWhole (← afterDigits s)

/-! ### Quoted texts -/

def unterminated (size line : Nat) : String :=
  let what := if size = 3 then "triple-quoted string" else "string"
  s!"unterminated {what} literal (detected at line {line})"

/-- What follows the quotes at the end of a text, `seen` of them having been read, with the
line they stand in. -/
def afterQuotes (quote : Char) (size seen line : Nat) : List Char → Read (List Char × Nat)
  | [] => .error (unterminated size line)
  | ['\\'] => .error (unterminated size line)
  | '\\' :: c :: rest => afterQuotes quote size 0 (if c = '\n' then line + 1 else line) rest
  | c :: rest =>
    if c = quote then
      if seen + 1 = size then .ok (rest, line) else afterQuotes quote size (seen + 1) line rest
    else if c = '\n' then
      if size = 1 then .error (unterminated size line) else afterQuotes quote size 0 (line + 1) rest
    else afterQuotes quote size 0 line rest

/-- What follows a quoted text behind its first quote. -/
def afterQuoted (quote : Char) (line : Nat) (s : List Char) : Read (List Char × Nat) :=
  match s with
  | c :: d :: rest =>
    if c = quote ∧ d = quote then afterQuotes quote 3 0 line rest
    else if c = quote then .ok (d :: rest, line)
    else afterQuotes quote 1 0 line s
  | s => afterQuotes quote 1 0 line s

/-- The letters that may stand in front of a quoted text, in small. -/
def quoteMarks : List String := ["", "b", "br", "f", "fr", "r", "rb", "rf", "u"]

/-! ### Names -/

/-- A number in capital hexadecimal digits, at least four. -/
def codeText (n : Nat) : String :=
  let digits := (Nat.toDigits 16 n).map Char.toUpper
  String.ofList (List.replicate (4 - digits.length) '0' ++ digits)

/-- The first character that no name has in its place. -/
def strangeSign? : List Char → Option Char
  | [] => none
  | c :: rest => if isNameStart c then rest.find? fun d => !isNamePart d else some c

def checkName (s : List Char) : Read Unit :=
  match strangeSign? s with
  | none => .ok ()
  | some c =>
    if isPrintable c then .error s!"invalid character '{c}' (U+{codeText c.toNat})"
    else .error s!"invalid non-printable character U+{codeText c.toNat}"

/-- Words that are no names. -/
def keywords : List String :=
  ["False", "None", "True", "and", "as", "assert", "async", "await", "break", "class", "continue",
    "def", "del", "elif", "else", "except", "finally", "for", "from", "global", "if", "import", "in",
    "is", "lambda", "nonlocal", "not", "or", "pass", "raise", "return", "try", "while", "with",
    "yield"]

/-! ### Signs -/

/-- Signs of more than one character, longer ones first. -/
def longSigns : List String :=
  ["**=", "//=", ">>=", "<<=", "...", "!=", "%=", "&=", "**", "*=", "+=", "-=", "->", "//", "/=",
    ":=", "<<", "<=", "<>", "==", ">=", ">>", "@=", "^=", "|="]

def nestingLimit : Nat := 200

/-- The brackets that are open behind a sign. -/
def openedBehind (opened : List Opening) (line : Nat) (c : Char) : Read (List Opening) :=
  let closing (o c : Char) : Bool := (o, c) ∈ [('(', ')'), ('[', ']'), ('\x7b', '\x7d')]
  if c = '(' ∨ c = '[' ∨ c = '\x7b' then
    if nestingLimit ≤ opened.length then .error "too many nested parentheses"
    else .ok (⟨c, line⟩ :: opened)
  else if c = ')' ∨ c = ']' ∨ c = '\x7d' then
    match opened with
    | [] => .error s!"unmatched '{c}'"
    | o :: rest =>
      if closing o.sign c then .ok rest
      else
        let place := if o.line = line then "" else s!" on line {o.line}"
        .error s!"closing parenthesis '{c}' does not match opening parenthesis '{o.sign}'{place}"
  else .ok opened

/-! ### Lines -/

/-- Why a token cannot be read. -/
inductive Slip where
  | firm (message : String)
  | minor (message : String)
deriving DecidableEq, Repr

def Slip.stop (opened : List Opening) : Slip → Stop
  | firm message => ⟨message, true, opened.head?, false⟩
  | minor message => ⟨message, false, opened.head?, false⟩

def strayContinuation : Slip := .minor "unexpected character after line continuation character"

/-- What is read, or a firm reason why not. -/
def firmly {α : Type} (r : Read α) : Except Slip α := r.mapError .firm

/-- How far a line is set in: counted with a tab filling up to every eighth column, and with
a tab as one column. -/
structure Inset where
  columns : Nat
  signs : Nat
deriving DecidableEq, Repr

/-- The inset of a line, with what follows it and the number of lines read. Where a backslash
continues the line, what stands before the first one counts. -/
def inset (i : Inset) (kept : Nat) (line : Nat) :
    List Char → Except Slip (Inset × List Char × Nat)
  | ' ' :: rest => inset ⟨i.columns + 1, i.signs + 1⟩ kept line rest
  | '\t' :: rest => inset ⟨(i.columns / 8 + 1) * 8, i.signs + 1⟩ kept line rest
  | '\x0c' :: rest => inset ⟨0, 0⟩ kept line rest
  | '\\' :: '\n' :: rest => inset i (if kept = 0 then i.columns else kept) (line + 1) rest
  | '\\' :: _ => .error strayContinuation
  | s => .ok (if kept = 0 then i else ⟨kept, kept⟩, s, line)

def mixedInset : Slip := .minor "inconsistent use of tabs and spaces in indentation"

def strayInset : Slip := .minor "unindent does not match any outer indentation level"

def insetLimit : Nat := 99

/-- Leave insets that are deeper than a line's, one token for each. -/
def leaveInsets (i : Inset) : List Inset → Except Slip (List Inset × Nat)
  | [] => if i.columns ≠ 0 then .error strayInset
    else if i.signs ≠ 0 then .error mixedInset else .ok ([], 0)
  | outer :: more =>
    if i.columns < outer.columns then (leaveInsets i more).map fun (left, n) => (left, n + 1)
    else if i.columns ≠ outer.columns then
      .error strayInset
    else if i.signs ≠ outer.signs then .error mixedInset
    else .ok (outer :: more, 0)

/-- The insets after the beginning of a line, and the tokens that tell their change. -/
def setLine (insets : List Inset) (i : Inset) : Except Slip (List Inset × List Kind) :=
  let last := insets.head?.getD ⟨0, 0⟩
  if i.columns = last.columns then
    if i.signs = last.signs then .ok (insets, []) else .error mixedInset
  else if last.columns < i.columns then
    if insetLimit ≤ insets.length then .error (.minor "too many levels of indentation")
    else if i.signs ≤ last.signs then .error mixedInset else .ok (i :: insets, [.indent])
  else (leaveInsets i insets).map fun (left, n) => (left, List.replicate n .dedent)

/-! ### All tokens -/

/-- How far reading has come. -/
structure Place where
  line : Nat
  opened : List Opening
  insets : List Inset
  /-- Whether a line begins here. -/
  fresh : Bool

/-- A token that does not change the brackets. -/
def Place.token (p : Place) (kind : Kind) (text : List Char) : Token :=
  ⟨kind, String.ofList text, p.opened.length, p.line⟩

/-- One step: the tokens that are read, the place behind them and the rest; `none` at the
end. -/
def step (p : Place) (s : List Char) :
    Except Slip (Option (List Token × Place × List Char)) := do
  if p.fresh then
    let (i, rest, line) ← inset ⟨0, 0⟩ 0 p.line s
    let p := { p with line, fresh := false }
    let blank := rest.head?.any fun c => c == '#' || c == '\n'
    if blank && p.opened.isEmpty then
      match rest.dropWhile (· != '\n') with
      | _ :: more => return some ([], { p with line := line + 1, fresh := true }, more)
      | [] => return some ([], p, [])
    else if p.opened.isEmpty then
      let (insets, kinds) ← setLine p.insets i
      return some (kinds.map fun k => p.token k [], { p with insets }, rest)
    else return some ([], p, rest)
  let s := s.dropWhile fun c => c == ' ' || c == '\t' || c == '\x0c'
  let s := if s.head? = some '#' then s.dropWhile (· != '\n') else s
  let taken (rest : List Char) : List Char := s.take (s.length - rest.length)
  let single (kind : Kind) (rest : List Char) : Option (List Token × Place × List Char) :=
    some ([p.token kind (taken rest)], p, rest)
  match s with
  | [] => return none
  | c :: rest =>
    let word := s.takeWhile isNameSign
    let behind := s.drop word.length
    if c = '\n' then
      let next := { p with line := p.line + 1, fresh := true }
      return some (if p.opened.isEmpty then [p.token .newline []] else [], next, rest)
    else if c.isDigit ∨ (c = '.' ∧ rest.head?.any Char.isDigit) then
      return single .number (← firmly (afterNumber s))
    else if (behind.head?.any fun d => d == '\'' || d == '"') &&
        quoteMarks.contains (String.ofList (word.map Char.toLower)) then
      let (rest, line) ← firmly (afterQuoted (behind.head?.getD '"') p.line behind.tail)
      return some ([p.token .quoted (taken rest)], { p with line }, rest)
    else if !word.isEmpty then
      firmly (checkName word)
      let isKeyword := keywords.contains (String.ofList word)
      return single (if isKeyword then .sign else .name) behind
    else if c = '\\' then
      match rest with
      | '\n' :: more => return some ([], { p with line := p.line + 1 }, more)
      | _ => .error strayContinuation
    else match longSigns.find? fun sign => sign.toList.isPrefixOf s with
      | some sign => return single .sign (s.drop sign.length)
      | none =>
        if !isPrintable c then
          .error (.firm s!"invalid non-printable character U+{codeText c.toNat}")
        let opened ← firmly (openedBehind p.opened p.line c)
        let p := { p with opened }
        return some ([p.token .sign [c]], p, rest)

def neverClosed (o : Opening) : String := s!"'{o.sign}' was never closed"

/-- Whether what follows a token was looked at to know that the token ends there. It was not
behind a closing quote or behind the third character of a sign. -/
def looksAhead (t : Token) : Bool :=
  match t.kind with
  | .quoted =>
    let quotes := t.text.toList.dropWhile fun c => c != '\'' && c != '"'
    quotes.length == 2
  | .sign => (t.text.toList.head?.any isNameSign) || t.text.length < 3
  | _ => true

def tokensFrom (p : Place) (foreseen : Bool) (s : List Char) : Nat → Tokens
  | 0 => ⟨[], none⟩
  | fuel + 1 => match step p s with
    | .ok (some (tokens, p, rest)) =>
      let foreseen := rest.isEmpty && tokens.getLast?.any looksAhead
      let more := tokensFrom p foreseen rest fuel
      { more with list := tokens ++ more.list }
    | .ok none => match p.opened with
      | [] => ⟨[p.token .finish []], none⟩
      | o :: _ => ⟨[], some ⟨neverClosed o, false, some o, foreseen⟩⟩
    | .error slip => ⟨[], some (slip.stop p.opened)⟩

/-- Breaks of every kind as line feeds. -/
def withLineFeeds : List Char → List Char
  | [] => []
  | '\r' :: '\n' :: rest => '\n' :: withLineFeeds rest
  | '\r' :: rest => '\n' :: withLineFeeds rest
  | c :: rest => c :: withLineFeeds rest

/-- The tokens of a text that begins in a line. -/
def tokens (line : Nat) (s : List Char) : Tokens :=
  let s := withLineFeeds s
  tokensFrom ⟨line, [], [], true⟩ false s (2 * s.length + 2)

end AgentGateway.Text.Literal
