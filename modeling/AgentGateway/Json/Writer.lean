import AgentGateway.Number.Shortest
import AgentGateway.Text.Quoted
import AgentGateway.Value

/-! JSON text of a value.

Keys and items keep their order. Every character outside of the control
characters, the quote and the backslash stands for itself, so a text holds no
line break of its own. A point in time is written as a text.

What is written here is a value that can be written: one with a whole number of too many digits in
it, or nested too deeply, has no text (`Value.limit?`), and whoever writes values looks at that
first. -/
namespace AgentGateway.Json

/-- What stands between two items, and between a key and its value. -/
structure Layout where
  item : List Char
  entry : List Char

/-- A blank after every comma and colon. -/
def spaced : Layout := ⟨[',', ' '], [':', ' ']⟩

def compact : Layout := ⟨[','], [':']⟩

def escapedChar (c : Char) : List Char :=
  if c = '"' then ['\\', '"']
  else if c = '\\' then ['\\', '\\']
  else if c = '\n' then ['\\', 'n']
  else if c = '\r' then ['\\', 'r']
  else if c = '\t' then ['\\', 't']
  else if c = '\x08' then ['\\', 'b']
  else if c = '\x0c' then ['\\', 'f']
  else if c.toNat < 32 then '\\' :: 'u' :: Text.hex 4 c.toNat
  else [c]

def string (s : String) : List Char := '"' :: (s.toList.flatMap escapedChar ++ ['"'])

def number (d : Double) : List Char :=
  if d.isNaN then "NaN".toList
  else if d.isFinite then d.text.toList
  else if d.negative then "-Infinity".toList
  else "Infinity".toList

mutual
def render (l : Layout) : Value → List Char
  | .null => "null".toList
  | .bool true => "true".toList
  | .bool false => "false".toList
  | .int n => (toString n).toList
  | .float d => number d
  | .text s => string s
  | .moment m => string m.display
  | .list [] => ['[', ']']
  | .list (x :: xs) => '[' :: (render l x ++ renderItems l xs)
  | .object [] => ['\x7b', '\x7d']
  | .object ((k, v) :: rest) => '\x7b' :: (string k ++ l.entry ++ render l v ++ renderEntries l rest)
/-- Items after the first, up to the closing bracket. -/
def renderItems (l : Layout) : List Value → List Char
  | [] => [']']
  | x :: xs => l.item ++ render l x ++ renderItems l xs
/-- Entries after the first, up to the closing brace. -/
def renderEntries (l : Layout) : List (String × Value) → List Char
  | [] => ['\x7d']
  | (k, v) :: rest => l.item ++ string k ++ l.entry ++ render l v ++ renderEntries l rest
end

def write (l : Layout) (v : Value) : String := String.ofList (render l v)

mutual
/-- Whether a value holds no number beyond the finite ones. -/
def finite : Value → Bool
  | .float d => d.isFinite
  | .list xs => finiteList xs
  | .object fs => finiteFields fs
  | _ => true
def finiteList : List Value → Bool
  | [] => true
  | x :: xs => finite x && finiteList xs
def finiteFields : List (String × Value) → Bool
  | [] => true
  | (_, v) :: rest => finite v && finiteFields rest
end

end AgentGateway.Json
