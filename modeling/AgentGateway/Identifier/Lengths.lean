import AgentGateway.Identifier

/-! The lengths of an identifier's parts as they are configured.

They should be whole numbers, and a truth value counts as one. Anything else is found
out only when a length is used: when characters are drawn, or when an identifier that
was supplied is measured against both lengths. -/
namespace AgentGateway

structure Lengths where
  entropy : Value
  partition : Value
deriving DecidableEq, Repr

namespace Lengths

/-- The lengths among some options; a missing one is the usual one. -/
def ofFields (fs : Fields) : Lengths :=
  ⟨(fs.get? "entropy_length").getD (.int Layout.standard.entropy),
    (fs.get? "partition_key_length").getD (.int Layout.standard.partition)⟩

def layout? (l : Lengths) : Option Layout := do
  return ⟨← l.entropy.count?, ← l.partition.count?⟩

/-! ### Drawing -/

/-- How many characters to draw. -/
def drawn : Value → Except Failure Int
  | .float d =>
    if d.negative && !d.isZero && !d.isNaN then .error (.misuse .negativeLength)
    else .error (.misuse (.noInteger "float"))
  | v => match v.count? with
    | some n => .ok n
    | none => .error (.misuse (.unordered "<" v.kindName "int"))

/-- What is wrong with lengths of which both are drawn. -/
def drawFault (l : Lengths) : Failure :=
  let fault (v : Value) : Option Failure := match drawn v with
    | .ok n => if n < 0 then some (.misuse .negativeLength) else none
    | .error f => some f
  ((fault l.entropy).or (fault l.partition)).getD (.misuse .negativeLength)

/-! ### Measuring -/

/-- A number as a double. -/
def double? : Value → Option Double
  | .float d => some d
  | v => v.count?.bind Double.ofInt

/-- Whether a body of some size has no room for both lengths, where it can be told. -/
def exceed? (l : Lengths) (size : Nat) : Option Bool :=
  match l.layout? with
  | some layout => some ((size : Int) < layout.entropy + layout.partition)
  | none => do return Double.isAbove size ((← double? l.entropy).add (← double? l.partition))

/-- What is wrong with lengths that a body is measured against. -/
def measureFault (l : Lengths) : Failure :=
  match l.entropy, l.partition with
  | .text _, .text _ => .misuse (.unordered "<" "int" "str")
  | .list _, .list _ => .misuse (.unordered "<" "int" "list")
  | .text _, p => .misuse (.unjoined "str" p.kindName)
  | .list _, p => .misuse (.unjoined "list" p.kindName)
  | e, p =>
    if (double? e).isSome ∧ (double? p).isSome then .misuse .noIndex
    else .misuse (.noSum "+" e.kindName p.kindName)

end Lengths

namespace Identifier

/-- A new identifier from what it is asked to be: any category, and any partition key
but null, which asks for a new one. -/
def freshFrom (l : Lengths) (category partition : Value) : Drawing String := do
  let entropy ← Entropy.draw (← Drawing.ofExcept (Lengths.drawn l.entropy))
  let partition ← match partition with
    | .null => Entropy.draw (← Drawing.ofExcept (Lengths.drawn l.partition))
    | key => pure key.display
  return s!"{category.display}_{entropy}{partition}"

/-- What a new identifier is made of. -/
def signature : Signature :=
  ⟨"new_id", [], ["prefix"], ["entropy_length", "partition_key", "partition_key_length"]⟩

def ofFields (fs : Fields) : Drawing String := do
  if let some f := signature.fault? fs then throw (.misuse (.call f))
  freshFrom (.ofFields fs) ((fs.get? "prefix").getD .null) ((fs.get? "partition_key").getD .null)

/-- The partition key of a value that should be an identifier. -/
def partitionFrom (l : Lengths) (identifier : Value) : Except Failure String :=
  if identifier.isVoid then .error (.report (.malformedIdentifier identifier))
  else match identifier with
    | .text s => match pieces s with
      | _ :: body :: _ =>
        match l.exceed? body.length, l.partition.count? with
        | some true, _ => .error (.report (.malformedIdentifier identifier))
        | some false, some n => .ok (String.ofList (Text.spellAll (tail body n)))
        | _, _ => .error l.measureFault
      | _ => .error (.report (.malformedIdentifier identifier))
    | v => .error (.misuse (.noAttribute v.kindName "split"))

end Identifier

namespace IdSource

/-- The source of identifiers, some of which may have been supplied. -/
def ofLengths (responseId conversationId : Option String) (l : Lengths) : Drawing IdSource :=
  match l.layout?, responseId.filter (!·.isEmpty), conversationId.filter (!·.isEmpty) with
  | some layout, _, _ => IdSource.make responseId conversationId layout
  | none, some _, some conversation => match Identifier.partitionFrom l (.text conversation) with
    | .error f => throw f
    | .ok _ => throw l.drawFault
  | none, _, _ => throw l.drawFault

/-- What a source of identifiers is made of. -/
def signature : Signature :=
  ⟨"DefaultIdGenerator.__init__", ["self"], [],
    ["response_id", "conversation_id", "entropy_length", "partition_key_length"]⟩

/-- The text of a value that is supplied as an identifier. -/
def supplied (v : Value) : Option String := if v.isVoid then none else some v.display

/-- A source with what is supplied for it. A conversation's identifier has to be a text,
for its partition key is read off it. -/
def ofFields (fs : Fields) : Drawing IdSource := do
  if let some f := signature.fault? fs then throw (.misuse (.call f))
  let part (name : String) : Value := (fs.get? name).getD .null
  let conversation := part "conversation_id"
  let l := Lengths.ofFields fs
  match conversation.isVoid, conversation with
  | true, _ | false, .text _ =>
    ofLengths (supplied (part "response_id")) (supplied conversation) l
  | false, v => throw (.misuse (.noAttribute v.kindName "split"))

end IdSource
end AgentGateway
