import AgentGateway.Number.Shortest
import AgentGateway.Text.Quoted
import AgentGateway.Value

/-! How a value reads in running text. A text stands for itself; inside a list or
an object it is quoted, and a point in time is spelled out part by part. -/
namespace AgentGateway.Value

def boolText (b : Bool) : String := if b then "True" else "False"

/-- A length of time as a call: days, seconds and microseconds, those that are zero
left out. Only the days may be negative. -/
def durationCall (micros : Int) : String :=
  let seconds := Int.fdiv micros 1000000
  let parts : List (String × Int) := [("days", Int.fdiv seconds 86400),
    ("seconds", Int.fmod seconds 86400), ("microseconds", Int.fmod micros 1000000)]
  let shown := parts.filterMap fun p => if p.2 = 0 then none else some s!"{p.1}={p.2}"
  "datetime.timedelta(" ++ (if shown.isEmpty then "0" else String.intercalate ", " shown) ++ ")"

def zoneText (offset : Int) : String :=
  if offset = 0 then "datetime.timezone.utc" else s!"datetime.timezone({durationCall offset})"

/-- A point in time as a call: its parts in order, trailing zero seconds and
microseconds left out. -/
def momentCall (m : Moment) : String :=
  let parts := [m.date.year.toNat, m.date.month, m.date.day, m.hour, m.minute].map toString ++
    (if m.micro ≠ 0 then [toString m.second, toString m.micro]
     else if m.second ≠ 0 then [toString m.second] else [])
  let zone := match m.offset with
    | some s => ["tzinfo=" ++ zoneText s]
    | none => []
  "datetime.datetime(" ++ String.intercalate ", " (parts ++ zone) ++ ")"

mutual
/-- The form inside a list or an object. -/
def nested : Value → String
  | .null => "None"
  | .bool b => boolText b
  | .int n => toString n
  | .float d => d.text
  | .text s => Text.quoted s
  | .moment m => momentCall m
  | .list xs => "[" ++ String.intercalate ", " (nestedList xs) ++ "]"
  | .object fs => "\x7b" ++ String.intercalate ", " (nestedFields fs) ++ "\x7d"
def nestedList : List Value → List String
  | [] => []
  | x :: xs => nested x :: nestedList xs
def nestedFields : List (String × Value) → List String
  | [] => []
  | (k, v) :: rest => (Text.quoted k ++ ": " ++ nested v) :: nestedFields rest
end

/-- The form in running text. -/
def display : Value → String
  | .text s => s
  | .moment m => m.display
  | v => nested v

/-- The name of a value's kind, as messages call it. -/
def kindName : Value → String
  | .null => "NoneType"
  | .bool _ => "bool"
  | .int _ => "int"
  | .float _ => "float"
  | .text _ => "str"
  | .moment _ => "datetime"
  | .list _ => "list"
  | .object _ => "dict"

end AgentGateway.Value
