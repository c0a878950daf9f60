import AgentGateway.Value.Limit

/-! Tool definitions in strict mode.

A strict function tool requires every property that it declares and allows no
other. What strictness sets goes to the end: `required` and
`additionalProperties` among the parameters, `strict` among the tool's own
fields. Any other tool is left as it is.

What a function tool says is copied as it is made strict, so it may be nested only so deep
(`limit?`). `strict` is the tool that is made then; one beyond the limit is not made (`echo`). -/
namespace AgentGateway.Tool

def isFunction (tool : Fields) : Bool := tool.get? "type" == some (.text "function")

/-- The names that parameters require once they are strict, if any. -/
def required? (parameters : Fields) : Option Value :=
  match parameters.get? "properties" with
  | some (.object properties) => some (.list (properties.map fun e => .text e.1))
  | _ => (parameters.get? "required").bind Value.present?

def strictParameters (parameters : Fields) : Fields :=
  parameters.without ["required", "additionalProperties"] ++
    (required? parameters).toList.map (fun v => ("required", v)) ++
    [("additionalProperties", .bool false)]

/-- Parameters made strict where they are an object. -/
def strictField : String × Value → String × Value
  | ("parameters", .object parameters) => ("parameters", .object (strictParameters parameters))
  | field => field

def strict (tool : Fields) : Fields :=
  if isFunction tool then (tool.without ["strict"]).map strictField ++ [("strict", .bool true)]
  else tool

/-- A tool definition made strict; what is no object is left as it is. -/
def process : Value → Value
  | .object tool => .object (strict tool)
  | v => v

/-- The limit that stands in the way of a strict tool. All but `strict` is copied. -/
def limit? (tool : Fields) : Option Limit :=
  if isFunction tool then (tool.without ["strict"]).findSome? fun e => e.2.limit? .copying else none

/-- A tool definition as it is echoed, unless it is beyond copying. -/
def echo (v : Value) : Except Limit Value :=
  match v with
  | .object tool => match limit? tool with
    | some l => .error l
    | none => .ok (process v)
  | _ => .ok (process v)

end AgentGateway.Tool
