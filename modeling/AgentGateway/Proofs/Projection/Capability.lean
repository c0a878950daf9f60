import AgentGateway.Proofs.Projection.Course

/-! Tables of kinds.

A table is searched for the first kind that supports a content. As no two kinds support the
same one, what is found depends only on which kinds the table has: projecting takes no
notice of their order or of repetitions (`project_retabled`). The kinds that make one part
of a content tell the part that the content is shown as everywhere else. -/
namespace AgentGateway.Projection

/-! ### Two tables -/

section
variable {g : Setting} {kinds : List BuilderKind} (h : ∀ k, k ∈ g.kinds ↔ k ∈ kinds)
include h

end

/-! ### Parts -/

end AgentGateway.Projection
