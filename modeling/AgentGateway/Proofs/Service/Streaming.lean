import AgentGateway.Proofs.Execution.Failing
import AgentGateway.Proofs.Identifier.Partition
import AgentGateway.Proofs.Projection.Echoes
import AgentGateway.Proofs.Value.Limit
import AgentGateway.Service

/-! An event stream ends in one verdict.

The events of a run go out as they are handed out, and a failure goes out as one more event,
numbered after the last that was asked for. `stream_verdict`: where all of them can be written, these
are all events of the run and, only if something could not be told, one that tells its failure; they
count up from zero, and the last one alone is a verdict. An event that cannot be written has taken
its number when that is found out, so the failure that goes out in its place has the next. -/
namespace AgentGateway.Service
open Projection

/-! ### Sending -/

/-- The frames of some events, up to the first that cannot be encoded. -/
def framed (events : List Event) : List String :=
  (events.takeWhile fun e => Text.isEncodable e.frame.toList).map Event.frame

theorem framed_cons (e : Event) (rest : List Event) :
    framed (e :: rest) = match frame? e with
      | some frame => frame :: framed rest
      | none => [] := by
  cases h : Text.isEncodable e.frame.toList <;> simp [framed, frame?, Option.filter, h]

theorem framed_single (e : Event) : framed [e] = (frame? e).toList := by
  rw [framed_cons]
  cases frame? e <;> rfl

/-- An event that goes out and can be written. -/
def Written (e : Event) : Prop := writable e.document = .ok e.write

theorem writable_ok (v : Value) : writable (.ok v) =
    match v.limit? .encoding with
    | some l => .error (.ofLimit l)
    | none => .ok v := rfl

theorem writable_of_limit {v : Value} {l : Limit} (h : v.limit? .encoding = some l) :
    writable (.ok v) = .error (.ofLimit l) := by
  rw [writable_ok, h]

theorem writable_of_spelled {v : Value} (h : v.limit? .encoding = none) :
    writable (.ok v) = .ok v := by
  rw [writable_ok, h]

theorem Written.of_spelled {e : Event} (h : e.document = .ok e.write)
    (hl : e.write.limit? .encoding = none) : Written e := by
  rw [Written, h, writable_of_spelled hl]

/-- Events that can be written are sent in front of whatever is sent after them. -/
theorem send_append (failure : Option Failure) {next : Int} {emitted rest : List Emission}
    {sent : List Event} (hnumbers : Consecutive next (emitted.map Emission.event))
    (hout : ∀ e ∈ emitted.map Emission.event, Written e)
    (hrest : (send failure (next + emitted.length) rest).frames = framed sent) :
    (send failure next (emitted ++ rest)).frames =
      framed (emitted.map Emission.event ++ sent) := by
  induction emitted generalizing next with
  | nil => simpa using hrest
  | cons e others ih =>
    obtain ⟨hwritten, hothers⟩ := List.forall_mem_cons.mp hout
    have hnumber : e.event.number = next := by simpa using hnumbers 0 e.event rfl
    have hafter : Consecutive (next + 1) (others.map Emission.event) := by
      intro k e' hk
      have := hnumbers (k + 1) e' hk
      omega
    have hlength : next + ((e :: others).length : Int) = next + 1 + (others.length : Int) := by
      simp only [List.length_cons]
      omega
    have htail := ih hafter hothers (hlength ▸ hrest)
    have hwritten : writable e.event.document = _ := hwritten
    rw [List.cons_append, List.map_cons, List.cons_append, framed_cons, send, hwritten, hnumber]
    cases frame? e.event with
    | none => rfl
    | some frame => exact congrArg (frame :: ·) htail

/-- Events that can all be written are sent with their failure behind them. -/
theorem send_outgoing (failure : Option Failure) {next : Int} {emitted : List Emission}
    (hnumbers : Consecutive next (emitted.map Emission.event))
    (hout : ∀ e ∈ emitted.map Emission.event, Written e) :
    (send failure next emitted).frames =
      framed (emitted.map Emission.event ++
        failure.toList.map (errorEvent (next + emitted.length))) := by
  rw [← send_append failure hnumbers hout, List.append_nil]
  cases failure with
  | none => rfl
  | some f =>
    simp only [send, Option.toList_some, List.map_cons, List.map_nil, framed_single,
      List.filterMap_cons, List.filterMap_nil]
    cases frame? (errorEvent (next + emitted.length) f) <;> rfl

/-- An event that cannot be written is told in its place, with the number after its own. -/
theorem send_blocked (failure : Option Failure) (next : Int) {e : Emission} (rest : List Emission)
    {f : Failure} (hblocked : writable e.event.document = .error f) :
    (send failure next (e :: rest)).frames = framed [errorEvent (e.event.number + 1) f] := by
  rw [send, hblocked, framed_single]

end AgentGateway.Service
namespace AgentGateway

/-- A failure as it is told: one of which no text can be made is told as that. -/
def Failure.told (f : Failure) : Failure :=
  match f.wrapLimit? with
  | some l => .ofLimit l
  | none => f

namespace Service
open Projection

/-- A failure is told the same once it is a report of a failed agent. -/
theorem errorEvent_escalate (number : Int) {f : Failure} (h : f.isHandled = true) :
    errorEvent number (Executor.escalate f) = errorEvent number f.told := by
  have htwice : (Failure.report f.toAgentInvocation).toAgentInvocation = f.toAgentInvocation :=
    if_pos f.toAgentInvocation_kind
  unfold Executor.escalate Failure.told
  rw [if_pos h]
  cases f.wrapLimit? with
  | some l => rfl
  | none => simp only [errorEvent, htwice]

/-! ### What a run sends -/

/-- A run as it is sent: it is created and in progress, items are told, and the last event is a
verdict, which is a failure only where there is one to tell. -/
structure Sent (heralds : List Event.Body) (fault : Option Failure) (run sent : List Event) :
    Prop where
  numbers : Consecutive 0 sent
  verdict : ∃ opening told last, sent = opening ++ told ++ [last] ∧
    opening.map Event.body = heralds ∧ (∀ e ∈ told, e.body.OfItem) ∧
    match fault with
    | none => run = sent ∧ ∃ response, last.body = .envelope .completed response
    | some f => run = opening ++ told ∧ last = errorEvent run.length f.told

theorem sent_project (g : Setting) (supply : Supply) {source : List RunStep}
    (hwords : ∀ s ∈ source, s.word? = none) (hdrawable : 0 ≤ supply.ids.layout.entropy)
    (hzero : supply.number = 0) :
    let fault := source.findSome? (RunStep.failure? g.kinds)
    let run := (project g (State.fresh supply none false) source).events
    Sent (Attended.heralds g supply.ids) fault run
      (run ++ fault.toList.map fun f => errorEvent run.length f.told) := by
  intro fault run
  have hfailure : _ = fault := project_failure g supply hwords (.inl hdrawable)
  have hnumbers : Consecutive supply.number run := (project_draws g _ source).numbers
  obtain ⟨told, a, hofItem, -, hbodies⟩ := project_unheard g supply hwords
  rw [hzero] at hnumbers
  rw [hfailure] at hbodies
  obtain ⟨before, ends, hrun, hbefore, hends⟩ := List.map_eq_append_iff.mp hbodies
  obtain ⟨opening, items, rfl, hopening, hitems⟩ := List.map_eq_append_iff.mp hbefore
  have hitems : ∀ e ∈ items, e.body.OfItem := fun e he =>
    hofItem _ (hitems ▸ List.mem_map_of_mem he)
  have hrun : run = opening ++ items ++ ends := hrun
  cases hfault : fault with
  | none =>
    rw [hfault] at hends
    obtain ⟨last, rfl, hlast⟩ := List.map_eq_singleton_iff.mp hends
    rw [Option.toList_none, List.map_nil, List.append_nil]
    exact ⟨hnumbers, opening, items, last, hrun, hopening, hitems, rfl, _, hlast⟩
  | some f =>
    rw [hfault] at hends
    obtain rfl := List.map_eq_nil_iff.mp hends
    rw [List.append_nil] at hrun
    have hlast : Consecutive (0 + run.length) [errorEvent run.length f.told] :=
      .cons (Int.zero_add _).symm (.nil _)
    refine ⟨hnumbers.append hlast, opening, items, _, ?_, hopening, hitems, hrun, rfl⟩
    rw [hrun]
    rfl

/-! ### Runs of an executor -/

/-- What is sent of a run, by what stands in its way first. -/
inductive Streamed (e : Executor) (r : Request) (ids : IdSource) (now : Int) (run : List Event) :
    List Event → Prop where
  /-- The agent's stream cannot be begun. -/
  | refused {f : Failure} (h : e.agent.stream = .error f) :
      Streamed e r ids now run [errorEvent 0 f.told]
  /-- A tool cannot be copied, which is found out before the first event has its number. -/
  | uncopied {source : List RunStep} {l : Limit} (begun : e.agent.stream = .ok source)
      (h : r.limit? = some l) :
      Streamed e r ids now run [errorEvent 0 (.ofLimit l)]
  /-- The first snapshot cannot go out, and has taken its number when that is found out. -/
  | unechoed {source : List RunStep} {f : WireFault} (begun : e.agent.stream = .ok source)
      (copied : r.limit? = none) (h : r.echoFault? = some f) :
      Streamed e r ids now run [errorEvent 1 (.ofWire f)]
  /-- An event is beyond writing. It has taken its number as well. -/
  | unwritten {source : List RunStep} {before after : List Event} {stop : Event} {l : Limit}
      (begun : e.agent.stream = .ok source) (copied : r.limit? = none)
      (echo : r.echoFault? = none) (split : run = before ++ stop :: after)
      (written : ∀ e ∈ before, e.write.limit? .encoding = none)
      (h : stop.write.limit? .encoding = some l) :
      Streamed e r ids now run (before ++ [errorEvent (before.length + 1) (.ofLimit l)])
  /-- All goes out that is told, up to the failure that ends it. -/
  | whole {source : List RunStep} {sent : List Event} (begun : e.agent.stream = .ok source)
      (copied : r.limit? = none) (echo : r.echoFault? = none)
      (written : ∀ e ∈ run, e.write.limit? .encoding = none)
      (h : Sent (Attended.heralds ⟨r, e.kinds, now, false⟩ ids) (e.fault? r) run sent) :
      Streamed e r ids now run sent

section
variable (e : Executor) (r : Request) (ids : IdSource) (entropy : Entropy) (now : Int)

/-- A stream that cannot be begun is one failure. -/
theorem sent_refused (hagent : e.agent.Streams) {f : Failure} (hs : e.agent.stream = .error f) :
    let run := e.stream r ⟨ids, 0, entropy⟩ now false
    (send run.failure 0 run.emitted).frames = framed [errorEvent 0 f.told] := by
  intro run
  have hhandled : f.isHandled = true := hagent.handled f (by rw [Agent.raised?, hs])
  have hrun : run = .failed (.initial ⟨ids, 0, entropy⟩) (Executor.escalate f) := by
    simp only [run, Executor.stream, hs]
  rw [hrun, ← errorEvent_escalate 0 hhandled]
  exact send_outgoing (some (Executor.escalate f)) (.nil 0) (List.forall_mem_nil _)

variable {source : List RunStep} (hs : e.agent.stream = .ok source)
include hs

/-- So is one whose tools cannot be copied. -/
theorem sent_uncopied {l : Limit} (hl : r.limit? = some l) :
    let run := e.stream r ⟨ids, 0, entropy⟩ now false
    (send run.failure 0 run.emitted).frames = framed [errorEvent 0 (.ofLimit l)] := by
  intro run
  obtain ⟨hemitted, hfailure⟩ := Executor.stream_of_limit hs hl ⟨ids, 0, entropy⟩ now false
  rw [show run.emitted = [] from hemitted,
    show run.failure = some (Executor.escalate (.ofLimit l)) from hfailure]
  exact send_outgoing (some (Executor.escalate (.ofLimit l))) (.nil 0) (List.forall_mem_nil _)

variable (hl : r.limit? = none)
include hl

theorem stream_events : (e.stream r ⟨ids, 0, entropy⟩ now false).events =
    (project ⟨r, e.kinds, now, false⟩ (State.fresh ⟨ids, 0, entropy⟩ none false) source).events := by
  rw [Executor.stream_of_source hs hl]
  rfl

theorem stream_numbers : Consecutive 0 (e.stream r ⟨ids, 0, entropy⟩ now false).events := by
  rw [stream_events e r ids entropy now hs hl]
  exact (project_draws ⟨r, e.kinds, now, false⟩ _ source).numbers

/-- Where a snapshot cannot go out, the first one has taken its number. -/
theorem sent_blocked {f : WireFault} (hecho : r.echoFault? = some f) :
    let run := e.stream r ⟨ids, 0, entropy⟩ now false
    (send run.failure 0 run.emitted).frames = framed [errorEvent 1 (.ofWire f)] := by
  intro run
  have hevents : run.events = _ := stream_events e r ids entropy now hs hl
  obtain ⟨first, rest, hfirst, hnumber, hdocument⟩ :=
    project_blocked ⟨r, e.kinds, now, false⟩ ⟨ids, 0, entropy⟩ source hecho
  rw [← hevents] at hfirst
  obtain ⟨e₀, emitted, hemitted, rfl, -⟩ := List.map_eq_cons_iff.mp hfirst
  have hblocked : writable e₀.event.document = .error (.ofWire f) := by
    rw [hdocument]
    rfl
  rw [hemitted, send_blocked run.failure 0 emitted hblocked, hnumber]
  rfl

variable (hagent : e.agent.Streams) (hecho : r.echoFault? = none)
include hagent hecho

theorem stream_outgoing :
    ∀ event ∈ (e.stream r ⟨ids, 0, entropy⟩ now false).events, event.document = .ok event.write := by
  rw [stream_events e r ids entropy now hs hl]
  exact project_outgoing ⟨r, e.kinds, now, false⟩ ⟨ids, 0, entropy⟩ (hagent.unheard source hs) hecho

/-- Where snapshots can go out, a run is sent up to the first event that cannot be written. -/
theorem sent_unwritten {before after : List Event} {stop : Event} {l : Limit}
    (hsplit : (e.stream r ⟨ids, 0, entropy⟩ now false).events = before ++ stop :: after)
    (hwritten : ∀ event ∈ before, event.write.limit? .encoding = none)
    (hlimit : stop.write.limit? .encoding = some l) :
    let run := e.stream r ⟨ids, 0, entropy⟩ now false
    (send run.failure 0 run.emitted).frames =
      framed (before ++ [errorEvent (before.length + 1) (.ofLimit l)]) := by
  intro run
  have hnumbers : Consecutive 0 run.events := stream_numbers e r ids entropy now hs hl
  have hdocuments := stream_outgoing e r ids entropy now hs hl hagent hecho
  rw [hsplit] at hdocuments
  rw [show run.events = _ from hsplit] at hnumbers
  obtain ⟨sent, rest, hemitted, rfl, hrest⟩ := List.map_eq_append_iff.mp hsplit
  obtain ⟨e₀, others, rfl, rfl, -⟩ := List.map_eq_cons_iff.mp hrest
  obtain ⟨houts, hout, -⟩ := List.forall_mem_append.mp hdocuments
    |>.imp_right List.forall_mem_cons.mp
  have hnumber : e₀.event.number = sent.length := by
    have := hnumbers sent.length e₀.event (by simp)
    omega
  rw [show run.emitted = _ from hemitted, List.length_map]
  refine send_append run.failure (fun k event hk => hnumbers k event ?_) (fun event hmem =>
    .of_spelled (houts event hmem) (hwritten event hmem)) ?_
  · rw [List.getElem?_append_left (List.getElem?_eq_some_iff.mp hk).1]
    exact hk
  · rw [send_blocked _ _ _ (hout ▸ writable_of_limit hlimit), hnumber]

/-- Where all can be written, it is sent with its failure behind it. -/
theorem sent_whole (hdrawable : 0 ≤ ids.layout.entropy)
    (hwritten : ∀ event ∈ (e.stream r ⟨ids, 0, entropy⟩ now false).events,
      event.write.limit? .encoding = none) :
    let run := e.stream r ⟨ids, 0, entropy⟩ now false
    ∃ sent, (send run.failure 0 run.emitted).frames = framed sent ∧
      Sent (Attended.heralds ⟨r, e.kinds, now, false⟩ ids) (e.fault? r) run.events sent := by
  intro run
  let g : Setting := ⟨r, e.kinds, now, false⟩
  have hevents : run.events = _ := stream_events e r ids entropy now hs hl
  have hnumbers : Consecutive 0 run.events := stream_numbers e r ids entropy now hs hl
  have hdocuments := stream_outgoing e r ids entropy now hs hl hagent hecho
  have hsent := sent_project g ⟨ids, 0, entropy⟩ (hagent.unheard source hs) hdrawable rfl
  have hfault : e.fault? r = source.findSome? (RunStep.failure? g.kinds) := by
    simp only [Executor.fault?, hs, hl]
    rfl
  rw [← hevents, ← hfault] at hsent
  refine ⟨_, ?_, hsent⟩
  rw [send_outgoing run.failure hnumbers fun event hmem =>
    .of_spelled (hdocuments event hmem) (hwritten event hmem),
    Executor.stream_failure hagent r ⟨ids, 0, entropy⟩ now false hdrawable, Int.zero_add,
    ← Stretch.length_events]
  cases hf : e.fault? r with
  | none => rfl
  | some f =>
    have htold := errorEvent_escalate (run.events.length : Int)
      (Executor.fault?_handled hagent hf)
    simp only [Option.map_some, Option.toList_some, List.map_cons, List.map_nil, htold]
    rfl

/-- Either of these is the case. -/
theorem sent_stream (hdrawable : 0 ≤ ids.layout.entropy) :
    let run := e.stream r ⟨ids, 0, entropy⟩ now false
    ∃ sent, (send run.failure 0 run.emitted).frames = framed sent ∧
      Streamed e r ids now run.events sent := by
  intro run
  cases hfind : run.events.find? fun event => (event.write.limit? .encoding).isSome with
  | some stop =>
    obtain ⟨hstop, before, after, hsplit, hbefore⟩ := List.find?_eq_some_iff_append.mp hfind
    obtain ⟨l, hlimit⟩ := Option.isSome_iff_exists.mp hstop
    have hwritten : ∀ event ∈ before, event.write.limit? .encoding = none := fun event hmem => by
      simpa using hbefore event hmem
    exact ⟨_, sent_unwritten e r ids entropy now hs hl hagent hecho hsplit hwritten hlimit,
      .unwritten hs hl hecho hsplit hwritten hlimit⟩
  | none =>
    have hwritten : ∀ event ∈ run.events, event.write.limit? .encoding = none :=
      fun event hmem => by simpa using List.find?_eq_none.mp hfind event hmem
    obtain ⟨sent, hframes, hsent⟩ :=
      sent_whole e r ids entropy now hs hl hagent hecho hdrawable hwritten
    exact ⟨sent, hframes, .whole hs hl hecho hwritten hsent⟩

end

/-! ### Answers -/

theorem handle_streaming (e : Endpoint) (now : Int) {body : List Nat} {r : Request}
    {ids : IdSource} {entropy entropy' : Entropy} (hparse : parse body = .ok r)
    (hids : (IdSource.ofRequest r e.executor.lengths).run entropy = (.ok ids, entropy'))
    (hstreaming : r.isStreaming = true) :
    let run := e.executor.stream r ⟨ids, 0, entropy'⟩ now false
    (handle e now body entropy).answer = eventStream (send run.failure 0 run.emitted).frames := by
  simp only [handle, hparse, hids, hstreaming, if_true]

/-- **An event stream ends in one verdict**, for a request that has a source of identifiers and an
agent that raises nothing but what callers handle. Where all it says can be told, the failure that
may end it is what the agent raises. -/
theorem stream_verdict (e : Endpoint) (now : Int) {l : Layout} {body : List Nat} {r : Request}
    {entropy : Entropy} (hagent : e.executor.agent.Streams)
    (hlengths : e.executor.lengths = l.lengths)
    (hentropy : 0 ≤ l.entropy) (hpartition : 0 < l.partition) (hchars : entropy.Alphanumeric)
    (hparse : parse body = .ok r) (hstreaming : r.isStreaming = true)
    (hreadable : r.unreadable? l = none) :
    ((r.limit? = none → (∀ c ∈ e.executor.agent.spoken, c.limit? = none) →
        e.executor.fault? r = e.executor.agent.raised?) ∧
      ∃ ids entropy' sent,
        (IdSource.ofRequest r e.executor.lengths).run entropy = (.ok ids, entropy') ∧
        (handle e now body entropy).answer = eventStream (framed sent) ∧
        Streamed e.executor r ids now (e.executor.stream r ⟨ids, 0, entropy'⟩ now false).events
          sent) := by
  refine ⟨Executor.fault?_eq_raised?, ?_⟩
  obtain ⟨ids, entropy', hids, hlayout⟩ :=
    IdSource.ofRequest_of_readable r hentropy hpartition hchars hreadable
  rw [← hlengths] at hids
  refine ⟨ids, entropy', ?_⟩
  rw [handle_streaming e now hparse hids hstreaming]
  cases hs : e.executor.agent.stream with
  | error f =>
    exact ⟨_, hids, congrArg eventStream (sent_refused e.executor r ids entropy' now hagent hs),
      .refused hs⟩
  | ok source =>
    cases hcopied : r.limit? with
    | some l =>
      exact ⟨_, hids, congrArg eventStream
        (sent_uncopied e.executor r ids entropy' now hs hcopied), .uncopied hs hcopied⟩
    | none =>
      cases hecho : r.echoFault? with
      | some f =>
        exact ⟨_, hids, congrArg eventStream
          (sent_blocked e.executor r ids entropy' now hs hcopied hecho), .unechoed hs hcopied hecho⟩
      | none =>
        obtain ⟨sent, hframes, hsent⟩ := sent_stream e.executor r ids entropy' now hs hcopied hagent
          hecho (hlayout ▸ hentropy)
        exact ⟨sent, hids, congrArg eventStream hframes, hsent⟩

/-! ### A stream whose snapshots cannot go out -/

/-- An endpoint that answers with what its agent says. -/
def speaker : Endpoint := ⟨"/v1", [], Executor.talker⟩

/-- A request that is read, but is nested too deeply to be echoed. -/
def deep : Request := { Request.ofText "Hi" with stream := some true, toolChoice := .burrow 299 }

def deepBody : List Nat :=
  ("\x7b\"input\":\"Hi\",\"stream\":true,\"tool_choice\":".toList ++
    List.replicate 300 '[' ++ List.replicate 300 ']' ++ ['\x7d']).map Char.toNat

/-- The agent raises nothing, and still the stream is a failure alone, with the number one. -/
theorem deep_fails :
    speaker.executor.agent.Streams ∧ speaker.executor.lengths = Layout.standard.lengths ∧
      Entropy.cyclic.Alphanumeric ∧ parse deepBody = .ok deep ∧
      speaker.executor.agent.raised? = none ∧
      (handle speaker 7 deepBody .cyclic).answer =
        eventStream (framed [errorEvent 1 (.misuse .tooDeepToWrite)]) := by
  have hparse : parse deepBody = .ok deep := by
    have hread : (parse deepBody).toOption = some deep := by decide +kernel
    cases h : parse deepBody with
    | error f => simp [h, Except.toOption] at hread
    | ok r => simpa [h, Except.toOption] using hread
  have hecho : deep.echoFault? = some .tooDeep := by decide +kernel
  have hlengths : speaker.executor.lengths = Layout.standard.lengths := rfl
  have hraised : speaker.executor.agent.raised? = none := rfl
  have hstreams : speaker.executor.agent.Streams := by
    refine ⟨fun source hs => ?_, fun f hf => ?_⟩
    · obtain rfl := Except.ok.inj hs
      simp [RunStep.word?]
    · rw [hraised] at hf
      cases hf
  obtain ⟨-, ids, _, sent, -, hanswer, hsent⟩ := stream_verdict speaker 7 hstreams hlengths
    (by decide) (by decide) Entropy.cyclic_alphanumeric hparse rfl rfl
  refine ⟨hstreams, hlengths, Entropy.cyclic_alphanumeric, hparse, hraised, ?_⟩
  cases hsent with
  | refused h => cases h
  | uncopied _ h => cases h
  | unechoed _ _ h =>
    obtain rfl := Option.some.inj (hecho.symm.trans h)
    exact hanswer
  | unwritten _ _ h => rw [hecho] at h; cases h
  | whole _ _ h => rw [hecho] at h; cases h

end Service
end AgentGateway
