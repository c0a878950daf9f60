import AgentGateway.Proofs.Json.Keys
import AgentGateway.Proofs.Request.Reading

/-! The tools that a request asks for.

They are read as they stand in its document (`tools_of_read`). So where the document comes from
a body, each key of a tool stands once in it, and so on for every object inside
(`tools_of_body`). -/
namespace AgentGateway.Request
variable {r : Request}

/-- The tools that a document asks for. -/
theorem tools_of_read {fs : Fields} (hread : read (.object fs) = .ok r) :
    Schema.maybe fs "tools" (Schema.list Schema.object) = .ok r.tools := by
  obtain ⟨-, -, -, -, -, -, -, -, -, -, -, -, -, -, -, -, -, -, -, -, -, -, htools, -, -⟩ :=
    readFields_eq_ok_iff.mp hread
  exact htools

theorem tools_wellKeyed {v : Value} (h : v.wellKeyed = true) (hread : read v = .ok r) :
    ∀ tool ∈ r.tools.getD [], Value.wellKeyed (.object tool) = true := by
  cases v with
  | object fs =>
    have htools := tools_of_read hread
    unfold Schema.maybe Schema.optional at htools
    split at htools
    · rename_i u hu
      rw [Checked.under_ok] at htools
      unfold Schema.nullable at htools
      split at htools
      · rw [← Checked.ok.inj htools]
        simp
      · obtain ⟨tools, hlist, hsome⟩ := Checked.map_eq_ok_iff.mp htools
        rw [← hsome]
        cases u with
        | list vs =>
          have hitems := Value.wellKeyed_list.mp (Value.wellKeyed_of_get? h hu)
          intro tool htool
          have hread : .ok tool ∈ vs.map Schema.object :=
            Schema.list_eq_ok_iff.mp hlist ▸ List.mem_map_of_mem htool
          obtain ⟨x, hx, hobject⟩ := List.mem_map.mp hread
          exact Schema.object_eq_ok_iff.mp hobject ▸ hitems x hx
        | _ => cases hlist
    · rw [← Checked.ok.inj htools]
      simp
  | _ => cases hread

/-- **A body's tools are documents.** -/
theorem tools_of_body {body : List Nat} (hbytes : ∀ b ∈ body, b < 256) {s : List Char}
    (hs : Text.decode? body = some s) {levels : Nat} {v : Value}
    (hv : Json.document levels s = .ok v) (hread : read v = .ok r) :
    ∀ tool ∈ r.tools.getD [], Value.wellKeyed (.object tool) = true :=
  tools_wellKeyed (Json.wellKeyed_of_document (Text.decode?_spelled hbytes hs) hv) hread

end AgentGateway.Request
