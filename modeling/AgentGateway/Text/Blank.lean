/-! Blanks: the characters of Unicode's `White_Space` property, and the wider set
that also takes in the four information separators. -/
namespace AgentGateway.Text

def isBlank (c : Char) : Bool :=
  let n := c.toNat
  (9 ≤ n && n ≤ 13) || n == 32 || n == 133 || n == 160 || n == 5760 ||
    (8192 ≤ n && n ≤ 8202) || n == 8232 || n == 8233 || n == 8239 || n == 8287 || n == 12288

def isBlankOrSeparator (c : Char) : Bool := isBlank c || (28 ≤ c.toNat && c.toNat ≤ 31)

/-- The characters that end a line. -/
def isLineEnd (c : Char) : Bool :=
  let n := c.toNat
  (10 ≤ n && n ≤ 13) || (28 ≤ n && n ≤ 30) || n == 133 || n == 8232 || n == 8233

/-- A text without the characters of a class at both of its ends. -/
def trimBy (p : Char → Bool) (s : List Char) : List Char :=
  ((s.dropWhile p).reverse.dropWhile p).reverse

def trim (s : List Char) : List Char := trimBy isBlank s

/-- Split at every occurrence of an element: one more piece than occurrences. -/
def splitAt {α : Type} [DecidableEq α] (mark : α) : List α → List (List α)
  | [] => [[]]
  | c :: rest =>
    if c = mark then [] :: splitAt mark rest
    else match splitAt mark rest with
      | [] => [[c]]
      | piece :: pieces => (c :: piece) :: pieces

/-- Split at every character of a class. -/
def splitWhere (p : Char → Bool) : List Char → List (List Char)
  | [] => [[]]
  | c :: rest =>
    if p c then [] :: splitWhere p rest
    else match splitWhere p rest with
      | [] => [[c]]
      | piece :: pieces => (c :: piece) :: pieces

/-- The words of a text: its runs of characters outside a class. -/
def wordsBy (p : Char → Bool) (s : List Char) : List (List Char) :=
  (splitWhere p s).filter fun w => !w.isEmpty

theorem splitAt_ne_nil {α : Type} [DecidableEq α] (mark : α) (s : List α) :
    splitAt mark s ≠ [] := by
  cases s with
  | nil => simp [splitAt]
  | cons c rest =>
    simp only [splitAt]
    split
    · simp
    · split <;> simp

end AgentGateway.Text
