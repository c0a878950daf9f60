import AgentGateway.Text.Literal.Quotation

/-! Texts with places to be filled in.

A place is an expression between braces, perhaps with a sign that keeps the expression's own
text, a letter for a conversion, and a layout in which there may be places again, but no
deeper ones. A brace that stands for itself is written twice. -/
namespace AgentGateway.Text.Literal.Filling

def told (message : String) : Mistake := .own (s!"f-string: {message}")

def missingBrace : Mistake := told "expecting '\x7d'"

/-! ### Plain stretches -/

/-- A stretch without places. -/
structure Stretch where
  text : List Char
  /-- Whether a brace that is written twice ends it. -/
  isDoubled : Bool
  rest : List Char

/-- The stretch that begins a text, or what there is of it in a layout; `kept` is read
already, its end first. -/
def stretch (isRaw inLayout : Bool) (kept : List Char) (s : List Char) :
    Except Mistake Stretch :=
  let ended (rest : List Char) : Except Mistake Stretch := .ok ⟨kept.reverse, false, rest⟩
  match s with
  | [] => ended []
  | '\\' :: 'N' :: rest =>
    if isRaw then stretch isRaw inLayout ('N' :: '\\' :: kept) rest
    else match rest with
      | '\x7b' :: more =>
        let name := more.takeWhile (· != '\x7d')
        stretch isRaw inLayout
          (((more.drop name.length).take 1).reverse ++ name.reverse ++ '\x7b' :: 'N' :: '\\' :: kept)
          (more.drop (name.length + 1))
      | c :: more => stretch isRaw inLayout (c :: 'N' :: '\\' :: kept) more
      | [] => .ok ⟨('N' :: '\\' :: kept).reverse, false, []⟩
  | '\\' :: c :: rest =>
    if isRaw || c == '\x7b' || c == '\x7d' then stretch isRaw inLayout ('\\' :: kept) (c :: rest)
    else stretch isRaw inLayout (c :: '\\' :: kept) rest
  | c :: rest =>
    if c ≠ '\x7b' ∧ c ≠ '\x7d' then stretch isRaw inLayout (c :: kept) rest
    else if inLayout then ended (c :: rest)
    else if rest.head? = some c then .ok ⟨(c :: kept).reverse, true, rest.tail⟩
    else if c = '\x7d' then .error (told "single '\x7d' is not allowed")
    else ended (c :: rest)
termination_by s.length
decreasing_by all_goals (simp_all only [List.length_cons, List.length_drop]; omega)

/-! ### Expressions -/

/-- What is known within an expression. -/
structure Depth where
  opened : List Char
  /-- The quote that a text ends with, and how many times it stands there. -/
  quote : Option (Char × Nat)

def nestingLimit : Nat := 200

def closes (opening c : Char) : Bool :=
  match opening with
  | '(' => c == ')'
  | '[' => c == ']'
  | '\x7b' => c == '\x7d'
  | _ => false

/-- The expression that a text begins with, with what follows it. -/
def expression (d : Depth) (kept : List Char) (s : List Char) :
    Except Mistake (List Char × List Char) :=
  match s, d.quote with
  | '\\' :: _, _ => .error (.own "f-string expression part cannot include a backslash")
  | [], some _ => .error (told "unterminated string")
  | [], none => match d.opened with
    | o :: _ => .error (told s!"unmatched '{o}'")
    | [] => .error missingBrace
  | c :: rest, some (quote, size) =>
    if c ≠ quote then expression d (c :: kept) rest
    else if size = 1 then expression { d with quote := none } (c :: kept) rest
    else match rest with
      | a :: b :: more =>
        if a = c ∧ b = c then expression { d with quote := none } (c :: c :: c :: kept) more
        else expression d (c :: kept) (a :: b :: more)
      | rest => expression d (c :: kept) rest
  | c :: rest, none =>
    if c = '\'' ∨ c = '"' then
      match rest with
      | a :: b :: more =>
        if a = c ∧ b = c then expression { d with quote := some (c, 3) } (c :: c :: c :: kept) more
        else expression { d with quote := some (c, 1) } (c :: kept) (a :: b :: more)
      | rest => expression { d with quote := some (c, 1) } (c :: kept) rest
    else if c = '[' ∨ c = '\x7b' ∨ c = '(' then
      if nestingLimit ≤ d.opened.length then .error (told "too many nested parenthesis")
      else expression { d with opened := c :: d.opened } (c :: kept) rest
    else if c = '#' then .error (.own "f-string expression part cannot include '#'")
    else if d.opened.isEmpty && ['!', ':', '\x7d', '=', '>', '<'].contains c then
      match rest with
      | '=' :: more =>
        if ['!', '=', '<', '>'].contains c then expression d ('=' :: c :: kept) more
        else .ok (kept.reverse, c :: rest)
      | rest => if c = '>' ∨ c = '<' then expression d (c :: kept) rest else .ok (kept.reverse, c :: rest)
    else if c = ']' ∨ c = '\x7d' ∨ c = ')' then
      match d.opened with
      | [] => .error (told s!"unmatched '{c}'")
      | o :: outer =>
        if closes o c then expression { d with opened := outer } (c :: kept) rest
        else .error (told s!"closing parenthesis '{c}' does not match opening parenthesis '{o}'")
    else expression d (c :: kept) rest
termination_by s.length
decreasing_by all_goals (simp_all only [List.length_cons, wfParam]; omega)

/-- An expression has to be one; `next` is the character behind it. -/
def checkExpression (check : List Char → Except Mistake Unit) (s : List Char) (next : Char) :
    Except Mistake Unit :=
  if s.all fun c => c == ' ' || c == '\t' || c == '\n' || c == '\x0c' then
    if next = '!' ∨ next = ':' ∨ next = '=' then
      .error (told s!"expression required before '{next}'")
    else .error (told "empty expression not allowed")
  else check s

/-- Blanks that may stand behind the sign for an expression's own text. -/
def isFiller (c : Char) : Bool := c == ' ' || ('\t' ≤ c && c ≤ '\r')

/-- What follows the sign and the letter behind an expression. -/
def afterConversion (s : List Char) : Except Mistake (List Char) :=
  let s := if s.head? = some '=' then s.tail.dropWhile isFiller else s
  match s with
  | '!' :: c :: rest =>
    if ['s', 'r', 'a'].contains c then .ok rest
    else .error (told "invalid conversion character: expected 's', 'r', or 'a'")
  | ['!'] => .error missingBrace
  | s => .ok s

/-- How to look at an expression that begins in a line. -/
abbrev Check := Nat → List Char → Except Mistake Unit

/-- Read a text to its end, or to the end of a layout so many places deep; `line` tells the
line that what is left begins in. -/
def read (check : Check) (line : List Char → Nat) (isRaw : Bool) :
    Nat → Nat → List Char → Except Mistake (List Char)
  | 0, _, s => .ok s
  | fuel + 1, depth, s => do
    let p ← stretch isRaw (depth != 0) [] s
    if !isRaw then
      if let some f := Quotation.textFault? p.text then throw (.own f)
    if p.isDoubled then read check line isRaw fuel depth p.rest
    else match p.rest with
      | '\x7b' :: rest =>
        if 2 ≤ depth then throw (told "expressions nested too deeply")
        let (inner, after) ← expression ⟨[], none⟩ [] rest
        checkExpression (check (line rest)) inner (after.head?.getD '\x7d')
        let rest ← afterConversion after
        let rest ← match rest with
          | [':'] => .error missingBrace
          | ':' :: layout => read check line isRaw fuel (depth + 1) layout
          | rest => pure rest
        if rest.head? = some '\x7d' then read check line isRaw fuel depth rest.tail
        else throw missingBrace
      | rest =>
        if depth = 0 ∨ rest.head? = some '\x7d' then return rest else throw missingBrace

/-- What is wrong with a text that is to be filled in and begins in a line. -/
def mistake? (check : Check) (line : Nat) (q : Quotation) : Option Mistake :=
  let lineAt (rest : List Char) := line + (q.inside.count '\n' - rest.count '\n')
  match read check lineAt q.isRaw (q.inside.length + 1) 0 q.inside with
  | .ok _ => none
  | .error m => some m

end AgentGateway.Text.Literal.Filling
