import AgentGateway.Text.CodePoint
import AgentGateway.Text.Printable

/-! Quoted text, as it stands in messages: between single quotes, or between
double ones when the text holds a single quote and no double one. Backslash, the
chosen quote and everything without a printed form are escaped. -/
namespace AgentGateway.Text

def hexDigit (n : Nat) : Char := if n < 10 then Char.ofNat (48 + n) else Char.ofNat (87 + n)

/-- A number in so many hexadecimal digits. -/
def hex : Nat → Nat → List Char
  | 0, _ => []
  | width + 1, n => hex width (n / 16) ++ [hexDigit (n % 16)]

theorem length_hex (width n : Nat) : (hex width n).length = width := by
  induction width generalizing n with
  | zero => rfl
  | succ width ih => simp [hex, ih]

theorem mem_hex {width n : Nat} {c : Char} (h : c ∈ hex width n) : ∃ k < 16, c = hexDigit k := by
  induction width generalizing n with
  | zero => cases h
  | succ width ih =>
    rw [hex, List.mem_append, List.mem_singleton] at h
    obtain h | h := h
    · exact ih h
    · exact ⟨_, Nat.mod_lt _ (by decide), h⟩

/-- The numbered escape of a code, as short as it allows. -/
def escapeCode (n : Nat) : List Char :=
  if n < 256 then '\\' :: 'x' :: hex 2 n
  else if n < 65536 then '\\' :: 'u' :: hex 4 n
  else '\\' :: 'U' :: hex 8 n

def quotedCode (quote : Char) (n : Nat) : List Char :=
  let c := Char.ofNat n
  if c = quote ∨ c = '\\' then ['\\', c]
  else if c = '\n' then ['\\', 'n']
  else if c = '\r' then ['\\', 'r']
  else if c = '\t' then ['\\', 't']
  else if isPrintable c then [c]
  else escapeCode n

/-- A text with the numbers of all code points but the plain ones. -/
def asciiOnly (s : List Char) : List Char :=
  (codes s).flatMap fun n => if n < 128 then [Char.ofNat n] else escapeCode n

def quoteFor (s : List Char) : Char := if s.contains '\'' && !s.contains '"' then '"' else '\''

def quotedChars (s : List Char) : List Char :=
  let quote := quoteFor s
  quote :: ((codes s).flatMap (quotedCode quote) ++ [quote])

def quoted (s : String) : String := String.ofList (quotedChars s.toList)

def EncodingFault.text (f : EncodingFault) : String :=
  let code := String.ofList (escapeCode f.code)
  let what := if f.count = 1 then s!"character '{code}' in position {f.place}"
    else s!"characters in position {f.place}-{f.place + f.count - 1}"
  s!"'utf-8' codec can't encode {what}: surrogates not allowed"

end AgentGateway.Text
