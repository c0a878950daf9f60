import AgentGateway.Schema.Shape

/-! Token usage: what an agent counts, and what the wire reports.

An agent's counts may each be absent. Adding two usages adds count by count, an
absent one standing for nothing unless both are absent. The wire form has no
absent counts; its total is the agent's own where there is one, and input plus
output otherwise. -/
namespace AgentGateway

/-- The counts of one run or of a part of it. -/
structure Usage where
  input : Option Int
  output : Option Int
  total : Option Int
  additional : Keyed Int
deriving DecidableEq, Repr

namespace Usage

def sum : Option Int → Option Int → Option Int
  | none, none => none
  | a, b => some (a.getD 0 + b.getD 0)

/-- Counts by name, added to those already there. -/
def addCounts (counts more : Keyed Int) : Keyed Int :=
  more.foldl (fun acc e => acc.put e.1 ((acc.get? e.1).getD 0 + e.2)) counts

def add (a b : Usage) : Usage :=
  { input := sum a.input b.input
    output := sum a.output b.output
    total := sum a.total b.total
    additional := addCounts a.additional b.additional }

/-- Usage so far with a further one, either of which may be absent. -/
def combine : Option Usage → Option Usage → Option Usage
  | total, none => total
  | none, some u => some u
  | some total, some u => some (total.add u)

@[simp] theorem combine_none_right (u : Option Usage) : combine u none = u := by cases u <;> rfl

@[simp] theorem combine_none_left (u : Option Usage) : combine none u = u := by cases u <;> rfl

theorem sum_comm (a b : Option Int) : sum a b = sum b a := by
  cases a <;> cases b <;> simp [sum, Int.add_comm]

/-! ### Documents -/

def read : Value → Checked Usage :=
  Schema.model fun fs =>
    Usage.mk <$> Schema.maybe fs "input_token_count" Schema.int
      <*> Schema.maybe fs "output_token_count" Schema.int
      <*> Schema.maybe fs "total_token_count" Schema.int
      <*> Schema.optional fs "additional_counts" (Schema.dict Schema.int) []

def write (u : Usage) : Value :=
  .object [
    ("input_token_count", .ofInt? u.input),
    ("output_token_count", .ofInt? u.output),
    ("total_token_count", .ofInt? u.total),
    ("additional_counts", .object (u.additional.map fun e => (e.1, .int e.2)))]

end Usage

/-! ### On the wire -/

/-- One named count with whatever else stands beside it. -/
structure CountDetail where
  count : Int
  extra : Fields
deriving DecidableEq, Repr

/-- Usage as a response reports it. -/
structure UsageReport where
  input : Int
  cached : CountDetail
  output : Int
  reasoning : CountDetail
  total : Int
  extra : Fields
deriving DecidableEq, Repr

namespace UsageReport

/-- The additional count that is reported as cached input. -/
def cachedKey : String := "InputTokenDetails.CachedTokenCount"

/-- The additional count that is reported as reasoning output. -/
def reasoningKey : String := "OutputTokenDetails.ReasoningTokenCount"

def zero : UsageReport := ⟨0, ⟨0, []⟩, 0, ⟨0, []⟩, 0, []⟩

def ofUsage : Option Usage → UsageReport
  | none => zero
  | some u =>
    let input := u.input.getD 0
    let output := u.output.getD 0
    { input, output
      cached := ⟨(u.additional.get? cachedKey).getD 0, []⟩
      reasoning := ⟨(u.additional.get? reasoningKey).getD 0, []⟩
      total := u.total.getD (input + output)
      extra := [] }

def readDetail (name : String) : Value → Checked CountDetail :=
  Schema.model <| Schema.keeping fun fs =>
    CountDetail.mk <$> Schema.required fs name Schema.int <*> pure (fs.without [name])

def read : Value → Checked UsageReport :=
  Schema.model <| Schema.keeping fun fs =>
    UsageReport.mk <$> Schema.required fs "input_tokens" Schema.int
      <*> Schema.required fs "input_tokens_details" (readDetail "cached_tokens")
      <*> Schema.required fs "output_tokens" Schema.int
      <*> Schema.required fs "output_tokens_details" (readDetail "reasoning_tokens")
      <*> Schema.required fs "total_tokens" Schema.int
      <*> pure (fs.without ["input_tokens", "input_tokens_details", "output_tokens",
        "output_tokens_details", "total_tokens"])

def writeDetail (name : String) (d : CountDetail) : Value :=
  .object ((name, .int d.count) :: Value.onWireFields d.extra)

def write (u : UsageReport) : Value :=
  .object ([
    ("input_tokens", .int u.input),
    ("input_tokens_details", writeDetail "cached_tokens" u.cached),
    ("output_tokens", .int u.output),
    ("output_tokens_details", writeDetail "reasoning_tokens" u.reasoning),
    ("total_tokens", .int u.total)] ++ Value.onWireFields u.extra)

/-- The parts of unknown shape, in their order. -/
def loose (u : UsageReport) : List Value :=
  u.cached.extra.values ++ u.reasoning.extra.values ++ u.extra.values

end UsageReport
end AgentGateway
