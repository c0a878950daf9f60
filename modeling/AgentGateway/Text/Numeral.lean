import AgentGateway.Text.Blank
import AgentGateway.Text.Letter

/-! Whole numbers as people type them: blanks around them, a sign in front, digits of
any script, and single underscores between digits. -/
namespace AgentGateway.Text

/-- The value of digits, `value` being that of the digits before them. An underscore
must have a digit behind it. -/
def digitsValue? (value : Nat) : List Char → Option Nat
  | [] => some value
  | '_' :: c :: rest => (decimalDigit? c).bind fun d => digitsValue? (10 * value + d) rest
  | c :: rest => (decimalDigit? c).bind fun d => digitsValue? (10 * value + d) rest

/-- Numbers of more digits are refused. -/
def digitLimit : Nat := 4300

/-- Digits, at least one and none of them an underscore at the start. -/
def natural? : List Char → Option Nat
  | [] => none
  | '_' :: _ => none
  | s => if digitLimit < (s.filter (· != '_')).length then none else digitsValue? 0 s

def wholeNumber? (s : String) : Option Int :=
  match trimBy isBlankOrSeparator s.toList with
  | '-' :: digits => (natural? digits).map fun n => -(n : Int)
  | '+' :: digits => (natural? digits).map fun n => (n : Int)
  | digits => (natural? digits).map fun n => (n : Int)

end AgentGateway.Text
