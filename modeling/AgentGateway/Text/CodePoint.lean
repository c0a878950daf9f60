/-! Texts as rows of code points.

A code point is any number below `0x110000`. Half of a surrogate pair that stands alone is
one of them, though no character is: it is held as the private character that lies
`0x100000` above it. Where one of those characters is meant itself, a mark stands in front
and the character after it is held instead; so is the mark. Every row of code points is
held as one text, and `codes_spell` reads it back.

What counts the parts of a text or cuts it at a place does so in code points. -/
namespace AgentGateway.Text

def isHighSurrogate (n : Nat) : Bool := 0xd800 ≤ n && n < 0xdc00

def isLowSurrogate (n : Nat) : Bool := 0xdc00 ≤ n && n < 0xe000

def isSurrogate (n : Nat) : Bool := 0xd800 ≤ n && n < 0xe000

/-- The code point of a surrogate pair. -/
def pairCode (high low : Nat) : Nat := 0x10000 + (high - 0xd800) * 1024 + (low - 0xdc00)

/-! ### How they are held -/

/-- What stands in front of a private character that is meant itself. -/
def mark : Char := Char.ofNat 0x10d7ff

/-- The code points that are held behind the mark. -/
def isMarked (n : Nat) : Bool := 0x10d7ff ≤ n && n < 0x10e000

/-- The characters that hold a code point. -/
def spell (n : Nat) : List Char :=
  if isSurrogate n then [Char.ofNat (0x100000 + n)]
  else if isMarked n then [mark, Char.ofNat (n + 1)]
  else [Char.ofNat n]

def spellAll (ns : List Nat) : List Char := ns.flatMap spell

/-- The code point that a character holds with no mark in front of it. -/
def codeOf (c : Char) : Nat := if isMarked c.toNat then c.toNat - 0x100000 else c.toNat

/-- The code points of a text. -/
def codes : List Char → List Nat
  | [] => []
  | [c] => [codeOf c]
  | c :: d :: rest =>
    if c = mark then (d.toNat - 1) :: codes rest else codeOf c :: codes (d :: rest)

/-- A code point with the characters that hold it. -/
structure Sign where
  text : List Char
  code : Nat
deriving DecidableEq, Repr

/-- The signs of a text. -/
def signs : List Char → List Sign
  | [] => []
  | [c] => [⟨[c], codeOf c⟩]
  | c :: d :: rest =>
    if c = mark then ⟨[c, d], d.toNat - 1⟩ :: signs rest else ⟨[c], codeOf c⟩ :: signs (d :: rest)

/-- A text as it is held, of which every character is meant itself. -/
def held (s : String) : String := String.ofList (spellAll (s.toList.map Char.toNat))

/-- The first code point of a text, and what follows it. -/
def first? : List Char → Option (Nat × List Char)
  | [] => none
  | [c] => some (codeOf c, [])
  | c :: d :: rest => if c = mark then some (d.toNat - 1, rest) else some (codeOf c, d :: rest)

/-! ### Counting and cutting -/

/-- How many code points a text has. -/
def size (s : List Char) : Nat := s.countP (· != mark)

def takeCodes (n : Nat) (s : List Char) : List Char := spellAll ((codes s).take n)

/-! ### Encoding -/

/-- Whether a text can be encoded. -/
def isEncodable (s : List Char) : Bool := (codes s).all fun n => !isSurrogate n

/-- Why a text cannot be encoded: the first code point that has no encoding, its place, and
how many of its kind stand there in a row. -/
structure EncodingFault where
  code : Nat
  place : Nat
  count : Nat
deriving DecidableEq, Repr

/-- What keeps a text from being encoded. -/
def encodingFault? (s : List Char) : Option EncodingFault :=
  let before := (codes s).takeWhile fun n => !isSurrogate n
  let rest := (codes s).drop before.length
  rest.head?.map fun code => ⟨code, before.length, (rest.takeWhile isSurrogate).length⟩

/-- A text with three signs of replacement, one for each byte, for what has no encoding. -/
def replaced (s : List Char) : List Char :=
  (codes s).flatMap fun n =>
    if isSurrogate n then List.replicate 3 (Char.ofNat 0xfffd) else spell n

def replacedText (s : String) : String := String.ofList (replaced s.toList)

/-! ### What is held is read back -/

theorem toNat_ofNat {n : Nat} (h : n.isValidChar) : (Char.ofNat n).toNat = n := by
  rw [Char.ofNat, dif_pos h]
  rfl

theorem codes_cons {c : Char} (h : c ≠ mark) (s : List Char) :
    codes (c :: s) = codeOf c :: codes s := by
  cases s with
  | nil => rfl
  | cons d rest => rw [codes, if_neg h]

/-- A code point in front of a text is read first. -/
theorem codes_spell_append {n : Nat} (h : n < 0x110000) (s : List Char) :
    codes (spell n ++ s) = n :: codes s := by
  have single (c : Char) (code : codeOf c = n) (unmarked : c ≠ mark) :
      codes (c :: s) = n :: codes s := by
    rw [codes_cons unmarked, code]
  have other (m : Nat) (valid : m.isValidChar) (apart : m ≠ 0x10d7ff) : Char.ofNat m ≠ mark := by
    intro same
    have := congrArg Char.toNat same
    rw [toNat_ofNat valid, mark, toNat_ofNat (by right; omega)] at this
    exact apart this
  by_cases surrogate : isSurrogate n = true
  · have bounds : 0xd800 ≤ n ∧ n < 0xe000 := by simpa [isSurrogate] using surrogate
    have valid : (0x100000 + n).isValidChar := by
      right
      omega
    have marked : isMarked (0x100000 + n) = true := by
      simp [isMarked]
      omega
    rw [spell, if_pos surrogate]
    exact single _ (by simp [codeOf, toNat_ofNat valid, marked]) (other _ valid (by omega))
  · have outside : ¬ (0xd800 ≤ n ∧ n < 0xe000) := by simpa [isSurrogate] using surrogate
    by_cases marked : isMarked n = true
    · have bounds : 0x10d7ff ≤ n ∧ n < 0x10e000 := by simpa [isMarked] using marked
      have valid : (n + 1).isValidChar := by
        right
        omega
      rw [spell, if_neg surrogate, if_pos marked]
      simp [codes, toNat_ofNat valid]
    · have apart : ¬ (0x10d7ff ≤ n ∧ n < 0x10e000) := by simpa [isMarked] using marked
      have valid : n.isValidChar := by
        unfold Nat.isValidChar
        omega
      rw [spell, if_neg surrogate, if_neg marked]
      exact single _ (by simp [codeOf, toNat_ofNat valid, marked]) (other _ valid (by omega))

/-- A row of code points is read back from the text that holds it. -/
theorem codes_spell {ns : List Nat} (h : ∀ n ∈ ns, n < 0x110000) : codes (spellAll ns) = ns := by
  induction ns with
  | nil => rfl
  | cons n rest ih =>
    rw [spellAll, List.flatMap_cons, codes_spell_append (h n List.mem_cons_self)]
    exact congrArg _ (ih fun m member => h m (List.mem_cons_of_mem n member))

end AgentGateway.Text
