import AgentGateway.Json.Reader
import AgentGateway.Proofs.Execution.Agreement
import AgentGateway.Proofs.Projection.Protocol
import AgentGateway.Proofs.Request.Tools
import AgentGateway.Proofs.Tool.Strictness

/-! Tools that are echoed.

All snapshots of a response, be it streamed or given at once, have the tools of its request,
made strict (`SnapshotFor.tools_eq`), and there is none where these cannot be copied. A request that
takes its tools from a response reads them as they were sent (`Tool.tools_of_echo`). So whether the
next response has the same tools is decided tool by tool (`strictness_closed`). That a tool is
`wellKeyed` is no condition on requests from outside: what is read of a body is
(`Request.tools_of_body`). -/
namespace AgentGateway

namespace Response

/-- A response for a request: told by its stream, however far it has come, or given at once. A stream
is begun only where the tools can be copied (`Projection.launch`). -/
inductive SnapshotFor (r : Request) (s : Response) : Prop where
  | told {g : Projection.Setting} {voice : Projection.Voice} {supply : Supply}
      {reason : Option Value} {cancelled : Bool} {source : List RunStep} {kind : Envelope}
      (copied : r.limit? = none) (request : g.request = r)
      (h : .envelope kind s ∈ (Projection.Attended.project g voice
        (Projection.State.fresh supply reason cancelled) source).bodies)
  | given {x : Executor} {ids : IdSource} {now : Int} {e e' : Entropy}
      (h : (x.respond r ids now).run e = (.ok s, e'))

/-- A response that is given at once is completed, with tools that can be copied. -/
theorem of_respond {x : Executor} {r : Request} {ids : IdSource} {now : Int} {e e' : Entropy}
    {s : Response} (h : (x.respond r ids now).run e = (.ok s, e')) :
    r.limit? = none ∧
      ∃ output usage createdAt, s = .build r ids .completed output usage createdAt := by
  cases hrun : x.agent.run with
  | error f =>
    rw [Executor.respond_of_failed hrun] at h
    cases h
  | ok run =>
    cases hitems : Item.ofMessages ids run.messages e with
    | mk result left =>
      cases result with
      | error f =>
        rw [Executor.respond_of_unnamed hrun r now hitems] at h
        cases h
      | ok output =>
        rw [Executor.respond_of_items hrun r now hitems, snapshotTime?] at h
        cases ht : createdAt? now run with
        | error f =>
          rw [ht] at h
          cases h
        | ok t =>
          cases hl : r.limit? with
          | some l =>
            rw [ht, hl] at h
            cases h
          | none =>
            rw [ht, hl] at h
            cases h
            exact ⟨rfl, output, run.usage, t, rfl⟩

theorem SnapshotFor.limit?_eq_none {r : Request} {s : Response} (h : SnapshotFor r s) :
    r.limit? = none := by
  cases h with
  | told copied => exact copied
  | given h => exact (of_respond h).1

theorem SnapshotFor.tools_eq {r : Request} {s : Response} (h : SnapshotFor r s) :
    s.tools = (r.tools.getD []).map Tool.strict := by
  cases h with
  | told _ request h =>
    obtain ⟨_, _, _, _, rfl⟩ := Projection.Attended.snapshot_of_mem _ _ _ _ _ _ h
    rw [← request]
    rfl
  | given h =>
    obtain ⟨-, _, _, _, rfl⟩ := of_respond h
    rfl

/-- Every response whose tools can be copied has a first snapshot. -/
theorem SnapshotFor.first {r : Request} (hl : r.limit? = none) (ids : IdSource) (createdAt : Int) :
    SnapshotFor r (.build r ids .inProgress [] none createdAt) := by
  let g : Projection.Setting := ⟨r, [], createdAt, false⟩
  obtain ⟨_, _, _, _, -, hbodies, -⟩ :=
    Projection.Attended.project_told g .silent ⟨ids, 0, .cyclic⟩ none false []
  have hfirst : .envelope .created (.build r ids .inProgress [] none createdAt) ∈
      (Projection.Attended.project g .silent
        (Projection.State.fresh ⟨ids, 0, .cyclic⟩ none false) []).bodies := by
    rw [hbodies, List.append_assoc]
    exact List.mem_append_left _ List.mem_cons_self
  exact .told hl rfl hfirst

/-- Strict tools as they are sent. -/
theorem sent_tools {s : Response} {tools : List Fields} (h : s.tools = tools.map Tool.strict) :
    s.write.get? "tools" = some (.list (tools.map fun tool => .object (Tool.echoed tool))) := by
  have htools : s.write.get? "tools" =
      some (.list (s.tools.map fun tool => .underTexts (Value.onWireFields tool))) := rfl
  rw [htools, h, List.map_map]
  rfl

end Response

namespace Tool
open Response (SnapshotFor sent_tools)

/-- What is read of tools that were sent is these tools. -/
theorem tools_of_echo {r r' : Request} {s : Response} {fs : Fields} (hs : SnapshotFor r s)
    (hread : Request.read (.object fs) = .ok r')
    (hecho : Keyed.get? fs "tools" = s.write.get? "tools") :
    r'.tools = some ((r.tools.getD []).map echoed) := by
  have hlist : Schema.list Schema.object
      (.list ((r.tools.getD []).map fun tool => .object (echoed tool))) =
        .ok ((r.tools.getD []).map echoed) :=
    Schema.list_eq_ok_iff.mpr (by simp only [List.map_map]; rfl)
  have htools := Request.tools_of_read hread
  rw [Schema.maybe, Schema.optional, hecho.trans (sent_tools hs.tools_eq)] at htools
  dsimp only at htools
  rw [Checked.under_ok, Schema.nullable, hlist] at htools
  · exact (Checked.ok.inj htools).symm
  · intro h
    cases h

/-- **Strictness is a closure.** What is made of a tool definition is made of itself as well, to the
order of the keys. What is no function is left as it is. A function tool that can be copied is made
strict: all else it says stays with its value and in its order, all properties of its parameters are
required in their order and no others allowed, and whatever else is said of its parameters stays. One
that is nested too deeply to be copied is refused.

So a response has the tools of its request in a form that the next response keeps: where a
request takes its tools from what a snapshot sends, these can be copied as well, and all snapshots of
its own response send the same tools, unless one of the tools asked for at first requires a number
beyond the finite ones. -/
theorem strictness_closed :
    (∀ v made, echo v = .ok made → echo made = .ok made) ∧
      (∀ tool : Fields, tool.get? "type" ≠ some (.text "function") →
        echo (.object tool) = .ok (.object tool)) ∧
      (∀ tool : Fields, Value.wellKeyed (.object tool) = true →
        tool.get? "type" = some (.text "function") →
        if ∀ e ∈ tool.without ["strict"], e.2.limit? .copying = none then
          ∃ made, echo (.object tool) = .ok (.object made) ∧ Strengthens tool made
        else echo (.object tool) = .error (.depth .copying)) ∧
      ∀ (r r' : Request) (s : Response) (fs : Fields),
        (∀ tool ∈ r.tools.getD [], Value.wellKeyed (.object tool) = true) → SnapshotFor r s →
        Request.read (.object fs) = .ok r' → Keyed.get? fs "tools" = s.write.get? "tools" →
        r'.limit? = none ∧ ∀ s', SnapshotFor r' s' →
          (s'.write.get? "tools" = s.write.get? "tools" ↔
            ∀ tool ∈ r.tools.getD [], RequiresFinite tool) := by
  refine ⟨fun _ _ => echo_echo, fun tool hother => ?_, fun tool h hf => ?_, ?_⟩
  · have hf : isFunction tool = false := Bool.eq_false_iff.mpr fun h => hother (isFunction_iff.mp h)
    rw [echo_of_copied (limit?_of_other hf), strict_of_other hf]
  · have hf := isFunction_iff.mpr hf
    split
    next hcopied =>
      exact ⟨strict tool, echo_of_copied ((limit?_eq_none_iff hf).mpr hcopied),
        strict_strengthens h hf⟩
    next hdeep =>
      obtain ⟨l, hl⟩ := Option.ne_none_iff_exists'.mp (mt (limit?_eq_none_iff hf).mp hdeep)
      rw [echo_of_limit hl, (limit?_eq_some hl).2]
  · intro r r' s fs h hs hread hecho
    have hasked := tools_of_echo hs hread hecho
    have hcopied := List.findSome?_eq_none_iff.mp hs.limit?_eq_none
    refine ⟨?_, fun s' hs' => ?_⟩
    · rw [Request.limit?, hasked, Option.getD_some, List.findSome?_eq_none_iff]
      exact List.forall_mem_map.mpr fun tool hmem =>
        limit?_echoed (h tool hmem) (hcopied tool hmem)
    · rw [sent_tools hs'.tools_eq, sent_tools hs.tools_eq, hasked, Option.getD_some, Option.some.injEq,
        Value.list.injEq, List.map_map, List.map_inj_left]
      refine forall₂_congr fun tool hmem => ?_
      rw [Function.comp_apply, Value.object.injEq]
      exact echoed_echoed_iff (h tool hmem)

/-! ### An echo that settles, and one that does not -/

/-- A document that asks for some tools, and the request that is read of it. -/
def asking (tools : List Fields) : Fields :=
  [("input", .text "Hi"), ("tools", .list (tools.map .object))]

def asked (tools : List Fields) : Request := { Request.ofText "Hi" with tools := some tools }

def snapshot (tools : List Fields) : Response :=
  .build (asked tools) ⟨⟨2, 1⟩, "resp_abc", "conv_def", "f"⟩ .inProgress [] none 7

theorem asking_sent (tools : List Fields) : (asking (tools.map echoed)).get? "tools" =
    (snapshot tools).write.get? "tools" := by
  have htools : (snapshot tools).tools = tools.map strict := rfl
  rw [sent_tools htools]
  simp [asking, Keyed.get?]

/-- A tool that was strict in a way of its own. -/
def weather : Fields :=
  [("type", .text "function"), ("strict", .bool false),
    ("parameters", .object [("required", .list [.text "city"]),
      ("properties", .object [("city", .object []), ("unit", .object [])])]),
    ("name", .text "weather")]

/-- It is made strict once and stays so. -/
theorem weather_settles :
    strict weather =
        [("type", .text "function"),
          ("parameters", .object [("properties", .object [("city", .object []), ("unit", .object [])]),
            ("required", .list [.text "city", .text "unit"]), ("additionalProperties", .bool false)]),
          ("name", .text "weather"), ("strict", .bool true)] ∧
      echo (.object weather) = .ok (.object (strict weather)) ∧
      echo (.object (strict weather)) = .ok (.object (strict weather)) ∧
      Strengthens weather (strict weather) ∧
      echo (.object [("type", .text "web_search")]) = .ok (.object [("type", .text "web_search")]) ∧
      (asked [echoed weather]).limit? = none ∧
      (snapshot [echoed weather]).write.get? "tools" = (snapshot [weather]).write.get? "tools" := by
  obtain ⟨hagain, hother, hmade, hecho⟩ := strictness_closed
  have hkeyed : Value.wellKeyed (.object weather) = true := by decide +kernel
  have hcopied : ∀ e ∈ weather.without ["strict"], e.2.limit? .copying = none :=
    List.findSome?_eq_none_iff.mp (by decide +kernel)
  have hfinite : RequiresFinite weather := by
    rintro - p d hp hd
    obtain rfl := Value.object.inj (Option.some.inj hp)
    cases hd
  have hweather := hmade weather hkeyed rfl
  rw [if_pos hcopied] at hweather
  obtain ⟨made, hstrict, hstrengthens⟩ := hweather
  obtain rfl : strict weather = made :=
    Value.object.inj (Except.ok.inj ((echo_of_copied (by decide +kernel)).symm.trans hstrict))
  have hfirst : (asked [weather]).limit? = none := by decide +kernel
  obtain ⟨hnext, hsame⟩ := hecho (asked [weather]) (asked [echoed weather]) _
    (asking [echoed weather]) (by simpa [asked] using hkeyed) (.first hfirst ..)
    (by decide +kernel) (asking_sent [weather])
  exact ⟨by decide +kernel, hstrict, hagain _ _ hstrict, hstrengthens, hother _ (by decide), hnext,
    (hsame _ (.first hnext ..)).mpr (by simpa [asked] using hfinite)⟩

/-- A tool whose parameters require a number beyond the finite ones. -/
def unbounded : Fields :=
  [("type", .text "function"), ("parameters", .object [("required", .float (.infinity false))])]

/-- The echo of a tool may be lost: what it required is sent as null, and null is not required. And
a tool may be nested too deeply to be made strict. -/
theorem unbounded_lost :
    (Json.read? "1e400" = some (.float (.infinity false)) ∧
      Value.wellKeyed (.object unbounded) = true ∧
      SnapshotFor (asked [unbounded]) (snapshot [unbounded]) ∧
      Request.read (.object (asking [echoed unbounded])) = .ok (asked [echoed unbounded]) ∧
      (asking [echoed unbounded]).get? "tools" = (snapshot [unbounded]).write.get? "tools" ∧
      SnapshotFor (asked [echoed unbounded]) (snapshot [echoed unbounded]) ∧
      (snapshot [echoed unbounded]).write.get? "tools" ≠
        (snapshot [unbounded]).write.get? "tools") ∧
      echo (.object [("type", .text "function"), ("note", .burrow 600)]) =
        .error (.depth .copying) := by
  refine ⟨⟨by decide +kernel, by decide +kernel, .first (by decide +kernel) .., by decide +kernel,
    asking_sent [unbounded], .first (by decide +kernel) .., ?_⟩, ?_⟩
  · decide +kernel
  · exact echo_of_limit (by decide +kernel)

end Tool
end AgentGateway
