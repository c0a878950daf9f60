import AgentGateway.Proofs.Response.Numbers
import AgentGateway.Proofs.Service.Streaming

/-! The status of an answer tells whose failure it is.

A body holds a request, or is unfit to be one, or is nested too deeply to tell. A request that is
held is refused only for a conversation identifier that cannot be read, and is otherwise answered
by what the agent's run comes to (`handle_answers`).

An agent that succeeds is not always answered for. Something it reports may be beyond what can be
spelled, and then there is no response. One that is made is told only where it can be
(`Request.Tellable`): a value that was read may be too deep to be written, a number may be beyond
the finite ones, and a text may have no encoding. Such an answer is an internal error. -/
namespace AgentGateway

/-! ### Texts of reports -/

namespace Json
open Text (IsLow low_of_all)

theorem escapedChar_low {c : Char} (h : IsLow c) : ∀ d ∈ escapedChar c, IsLow d := by
  have hescaped : ∀ n < 93,
      ((escapedChar (Char.ofNat n)).all fun d => decide (IsLow d)) = true := by decide
  by_cases hc : c.toNat < 93
  · have hsmall := hescaped c.toNat hc
    rw [Char.ofNat_toNat] at hsmall
    exact low_of_all hsmall
  · have hne (d : Char) (hd : d.toNat < 93) : c ≠ d := by
      rintro rfl
      exact hc hd
    have hself : escapedChar c = [c] := by
      simp [escapedChar, hne '"' (by decide), hne '\\' (by decide), hne '\n' (by decide),
        hne '\r' (by decide), hne '\t' (by decide), hne '\x08' (by decide), hne '\x0c' (by decide)]
      omega
    rw [hself]
    exact List.forall_mem_singleton.mpr h

theorem string_low {s : String} (h : ∀ c ∈ s.toList, IsLow c) : ∀ c ∈ string s, IsLow c := by
  refine List.forall_mem_cons.mpr
    ⟨by decide, List.forall_mem_append.mpr ⟨?_, low_of_all (by decide)⟩⟩
  intro c hc
  obtain ⟨d, hd, hc⟩ := List.mem_flatMap.mp hc
  exact escapedChar_low (h d hd) c hc

theorem renderEntries_low {fs : Fields}
    (h : ∀ e ∈ fs, (∀ c ∈ e.1.toList, IsLow c) ∧ ∀ c ∈ render compact e.2, IsLow c) :
    ∀ c ∈ renderEntries compact fs, IsLow c := by
  induction fs with
  | nil => exact low_of_all (by decide)
  | cons e rest ih =>
    obtain ⟨⟨hkey, hvalue⟩, hrest⟩ := List.forall_mem_cons.mp h
    simp only [renderEntries, List.forall_mem_append]
    exact ⟨⟨⟨⟨low_of_all (by decide), string_low hkey⟩, low_of_all (by decide)⟩, hvalue⟩, ih hrest⟩

theorem render_object_low {fs : Fields}
    (h : ∀ e ∈ fs, (∀ c ∈ e.1.toList, IsLow c) ∧ ∀ c ∈ render compact e.2, IsLow c) :
    ∀ c ∈ render compact (.object fs), IsLow c := by
  cases fs with
  | nil => exact low_of_all (by decide)
  | cons e rest =>
    obtain ⟨⟨hkey, hvalue⟩, hrest⟩ := List.forall_mem_cons.mp h
    simp only [render, List.forall_mem_cons, List.forall_mem_append]
    exact ⟨by decide, ⟨⟨string_low hkey, low_of_all (by decide)⟩, hvalue⟩,
      renderEntries_low hrest⟩

end Json

namespace Service
open Text (IsLow low_of_all)

theorem encoded_of_encodable {a : HttpAnswer} {s : String} (hbody : a.body = .text s)
    (h : Text.isEncodable s.toList = true) : encoded a = a := by
  simp only [encoded, hbody, (Text.encodingFault?_eq_none_iff s.toList).mpr h]

theorem encoded_of_not_encodable {a : HttpAnswer} {s : String} (hbody : a.body = .text s)
    (h : Text.isEncodable s.toList = false) : encoded a = internalError "UnicodeEncodeError" := by
  cases hfault : Text.encodingFault? s.toList with
  | none =>
    rw [(Text.encodingFault?_eq_none_iff s.toList).mp hfault] at h
    cases h
  | some f =>
    simp only [encoded, hbody, hfault]
    rfl

/-- An answer goes out as it is, or is an internal error. -/
theorem encoded_cases (a : HttpAnswer) : encoded a = a ∨ (encoded a).status = 500 := by
  unfold encoded
  split
  · split
    · exact .inr rfl
    · exact .inl rfl
  · exact .inl rfl

/-! ### Reports -/

/-- An answer that reports a failure with some status and code. -/
def Reports (a : HttpAnswer) (status : Int) (code : String) : Prop :=
  ∃ message type, a = json status (.object [("error", .object [
    ("code", .text code), ("message", message), ("type", type)])])

theorem Reports.status_eq {a : HttpAnswer} {status : Int} {code : String}
    (h : Reports a status code) : a.status = status := by
  obtain ⟨message, type, rfl⟩ := h
  rfl

/-- The two codes of a request that is refused are told apart. -/
theorem Reports.not_both {a : HttpAnswer} {status : Int} (h : Reports a status "INVALID_REQUEST") :
    ¬Reports a status "INVALID_ID" := by
  rintro ⟨message', type', h'⟩
  obtain ⟨message, type, rfl⟩ := h
  have htext := congrArg (·.toList[26]?) (HttpBody.text.inj (congrArg HttpAnswer.body h'))
  simp only [Json.write, String.toList_ofList] at htext
  -- The codes part after what they have in common.
  have hrequest : (Json.render Json.compact (.object [("error", .object [
      ("code", .text "INVALID_REQUEST"), ("message", message), ("type", type)])]))[26]? =
        some 'R' := rfl
  have hidentifier : (Json.render Json.compact (.object [("error", .object [
      ("code", .text "INVALID_ID"), ("message", message'), ("type", type')])]))[26]? =
        some 'I' := rfl
  rw [hrequest, hidentifier] at htext
  cases htext

theorem failed_report {q : Report} {status : Int} (h : q.status = .int status) :
    failed (.report q) = encoded (json status q.body) := by
  rw [failed, Report.answerStatus, h]

/-- The report of a request that is none can be encoded. -/
theorem failed_invalidRequest {message : String} (h : ∀ c ∈ message.toList, IsLow c) :
    failed (.report (.invalidRequest message)) = json 400 (Report.invalidRequest message).body := by
  have hbody : (json 400 (Report.invalidRequest message).body).body =
      .text (Json.write Json.compact (Report.invalidRequest message).body) := rfl
  have hwords : ∀ w ∈ ["error", "code", "message", "type", "INVALID_REQUEST",
      "InvalidRequestException"], (w.toList.all fun c => decide (IsLow c)) = true := by decide
  simp only [List.forall_mem_cons] at hwords
  obtain ⟨herror, hcode, hmessage, htype, hrequest, hname, -⟩ := hwords
  rw [failed_report rfl]
  refine encoded_of_encodable hbody (Text.isEncodable_of_low ?_)
  rw [Json.write, String.toList_ofList]
  refine Json.render_object_low (List.forall_mem_singleton.mpr ⟨low_of_all herror, ?_⟩)
  refine Json.render_object_low (List.forall_mem_cons.mpr ⟨⟨low_of_all hcode, ?_⟩,
    List.forall_mem_cons.mpr ⟨⟨low_of_all hmessage, ?_⟩,
      List.forall_mem_singleton.mpr ⟨low_of_all htype, ?_⟩⟩⟩)
  · exact Json.string_low (low_of_all hrequest)
  · exact Json.string_low h
  · exact Json.string_low (low_of_all hname)

/-! ### Bodies -/

/-- What a body is read as. -/
def document (body : List Nat) : Option (Json.Reading Value) :=
  (Text.decode? body).map (Json.document bodyLevels)

/-- A body that is a document which describes a request. -/
def Holds (body : List Nat) (r : Request) : Prop :=
  ∃ v, document body = some (.ok v) ∧ Request.read v = .ok r

/-- A body that holds no request, and is not just nested too deeply to tell. -/
def Unfit (body : List Nat) : Prop :=
  document body ≠ some (.error .tooDeep) ∧ ∀ r, ¬Holds body r

theorem unreadable_low : ∀ c ∈ unreadable.toList, IsLow c := low_of_all (by decide)

theorem digits_low (n : Nat) : ∀ c ∈ (toString n).toList, IsLow c := by
  intro c hc
  rw [Nat.toString_eq_repr, Nat.toList_repr] at hc
  have hdigit := Nat.isDigit_of_mem_toDigits (by decide) (by decide) hc
  have hle : c.toNat ≤ 57 := by
    simp only [Char.isDigit, Bool.and_eq_true, decide_eq_true_eq] at hdigit
    exact hdigit.2
  show c.toNat < 0x10d7ff
  omega

theorem invalid_low (faults : List Fault) : ∀ c ∈ (invalid faults).toList, IsLow c := by
  unfold invalid
  generalize faults.length = n
  have htext : (s!"Invalid request: {n} validation error(s).").toList =
      "Invalid request: ".toList ++ ((toString n).toList ++ " validation error(s).".toList) := by
    simp [toString]
  rw [htext]
  exact List.forall_mem_append.mpr
    ⟨low_of_all (by decide),
      List.forall_mem_append.mpr ⟨digits_low n, low_of_all (by decide)⟩⟩

theorem parse_eq (body : List Nat) : parse body = match document body with
    | some (.ok v) => match Request.read v with
      | .ok r => .ok r
      | .faulty faults => .error (.report (.invalidRequest (invalid faults)))
    | some (.error .tooDeep) => .error (.misuse .tooDeepToRead)
    | _ => .error (.report (.invalidRequest unreadable)) := rfl

theorem parse_of_holds {body : List Nat} {r : Request} (h : Holds body r) :
    parse body = .ok r := by
  obtain ⟨v, hdocument, hread⟩ := h
  rw [parse_eq, hdocument]
  simp only [hread]

theorem parse_of_tooDeep {body : List Nat} (h : document body = some (.error .tooDeep)) :
    parse body = .error (.misuse .tooDeepToRead) := by
  rw [parse_eq, h]

/-- An unfit body is reported with a text that can be encoded. -/
theorem parse_of_unfit {body : List Nat} (h : Unfit body) :
    ∃ message : String, (∀ c ∈ message.toList, IsLow c) ∧
      parse body = .error (.report (.invalidRequest message)) := by
  rw [parse_eq]
  obtain ⟨htooDeep, hholds⟩ := h
  cases hdocument : document body with
  | none => exact ⟨_, unreadable_low, rfl⟩
  | some reading =>
    cases reading with
    | error fault =>
      cases fault with
      | tooDeep => exact absurd hdocument htooDeep
      | malformed => exact ⟨_, unreadable_low, rfl⟩
    | ok v =>
      cases hread : Request.read v with
      | ok r => exact absurd ⟨v, hdocument, hread⟩ (hholds r)
      | faulty faults => exact ⟨_, invalid_low faults, by simp only [hread]⟩

end Service

/-! ### Runs as responses -/

theorem createdAt?_error {now : Int} {run : Run} {f : Failure} (h : createdAt? now run = .error f) :
    f = .misuse .unplacedMoment := by
  unfold createdAt? secondsOf at h
  split at h
  · split at h
    · cases h
    · exact (Except.error.inj h).symm
  · cases h

/-- The time of a response is missing for something that was not to be reported. -/
theorem answerTime?_error {r : Request} {now : Int} {run : Run} {f : Failure}
    (h : answerTime? r now run = .error f) : ∃ m, f = .misuse m := by
  unfold answerTime? snapshotTime? at h
  cases hl : run.limit? with
  | some l =>
    rw [hl] at h
    exact ⟨_, (Except.error.inj h).symm⟩
  | none =>
    rw [hl] at h
    cases hcreated : createdAt? now run with
    | error f' =>
      rw [hcreated] at h
      exact ⟨_, (Except.error.inj h).symm.trans (createdAt?_error hcreated)⟩
    | ok t =>
      cases hr : r.limit? with
      | some l =>
        rw [hcreated, hr] at h
        exact ⟨_, (Except.error.inj h).symm⟩
      | none =>
        rw [hcreated, hr] at h
        cases h

namespace Executor
variable {e : Executor}

/-- The response for a run conveys the run's contents, if it has a time to bear. -/
theorem respond_of_run {run : Run} (hrun : e.agent.run = .ok run) (r : Request) {ids : IdSource}
    (now : Int) (entropy : Entropy) (hdrawable : 0 ≤ ids.layout.entropy) :
    ∃ entropy', match answerTime? r now run with
      | .error f => (e.respond r ids now).run entropy = (.error f, entropy')
      | .ok t => ∃ output, Item.Conveys output (run.messages.flatMap Message.contents) ∧
          (e.respond r ids now).run entropy =
            (.ok (.build r ids .completed output run.usage t), entropy') := by
  cases hl : run.limit? with
  | some l =>
    rw [answerTime?_of_limit hl]
    exact respond_of_limit hrun hl r now entropy hdrawable
  | none =>
    obtain ⟨output, entropy', hitems, hconveys⟩ := Item.ofMessages_conveys run.messages entropy
      (Or.inl hdrawable) (Run.limit?_eq_none_iff.mp hl)
    have hresponse := respond_of_items hrun r now hitems
    refine ⟨entropy', ?_⟩
    rw [answerTime?_of_spelled hl]
    cases htime : snapshotTime? r now run with
    | error f =>
      rw [htime] at hresponse
      exact hresponse
    | ok t =>
      rw [htime] at hresponse
      exact ⟨output, hconveys, hresponse⟩

end Executor

/-- A response that can be written, with a text that can be encoded. -/
structure Response.Encodable (r : Response) : Prop where
  spelled : r.write.limit? .encoding = none
  encodable : Text.isEncodable (Json.write Json.compact r.write).toList = true

/-- A request whose responses can be told: what they echo of it can go out, and its numbers are
finite. -/
structure Request.Tellable (r : Request) : Prop where
  echo : r.echoFault? = none
  temperature : (r.temperature.getD .one).isFinite = true
  topP : (r.topP.getD .one).isFinite = true

/-- An agent whose run fails with nothing but what callers handle, and with no report of a failed
agent that has a status of its own. -/
structure Agent.Answers (a : Agent) : Prop where
  handled : ∀ f, a.run = .error f → f.isHandled = true
  internal : ∀ q : Report, a.run = .error (.report q) → q.kind = .agentInvocation →
    q.status = .int 500

namespace Service

section
variable {r : Request} (ids : IdSource) {output : List Item} (usage : Option Usage) (t : Int)
  (houtput : ∀ i ∈ output, i.loose = [])
include houtput

/-- A response goes out where its request is tellable and its text can be encoded. -/
theorem completed_build (h : r.Tellable)
    (hencodable : (Response.build r ids .completed output usage t).Encodable) :
    completed (.build r ids .completed output usage t) =
      json 200 (Response.build r ids .completed output usage t).write := by
  have hfinite : Json.finite (Response.build r ids .completed output usage t).write = true :=
    (Response.finite_write _).trans (by simp [Response.build, h.temperature, h.topP])
  simp only [completed, Response.document_build r ids _ usage t houtput, h.echo,
    writable_of_spelled hencodable.spelled, hfinite, if_true]
  exact encoded_of_encodable rfl hencodable.encodable

/-- Elsewhere it is an internal error. -/
theorem completed_build_status
    (h : ¬(r.Tellable ∧ (Response.build r ids .completed output usage t).Encodable)) :
    (completed (.build r ids .completed output usage t)).status = 500 := by
  rw [completed, Response.document_build r ids _ usage t houtput]
  cases hecho : r.echoFault? with
  | some f => cases f <;> rfl
  | none =>
    dsimp only
    cases hspelled : (Response.build r ids .completed output usage t).write.limit? .encoding with
    | some l =>
      rw [writable_of_limit hspelled]
      rfl
    | none =>
      simp only [writable_of_spelled hspelled, Response.finite_write]
      split
      · rename_i hfinite
        obtain ⟨htemperature, htopP⟩ := Bool.and_eq_true_iff.mp hfinite
        cases hencodable : Text.isEncodable (Json.write Json.compact
            (Response.build r ids .completed output usage t).write).toList with
        | false =>
          rw [encoded_of_not_encodable rfl hencodable]
          rfl
        | true => exact absurd ⟨⟨hecho, htemperature, htopP⟩, hspelled, hencodable⟩ h
      · rfl

end

/-- The answer to a request whose agent failed: the code and the message of the report, unless no
text could be made for one. -/
def reported (f : Failure) : HttpAnswer :=
  match f.wrapLimit? with
  | some l => internalError l.name
  | none => encoded (json 500 f.toAgentInvocation.body)

theorem failed_escalate {a : Agent} (ha : a.Answers) {f : Failure} (hrun : a.run = .error f) :
    failed (Executor.escalate f) = reported f := by
  have hstatus : f.toAgentInvocation.status = .int 500 := by
    obtain hsame | ⟨hother, -, -⟩ := f.toAgentInvocation_cases
    · exact ha.internal _ (hsame ▸ hrun) f.toAgentInvocation_kind
    · cases f with
      | report q => exact congrArg Report.status (if_neg (hother q rfl))
      | misuse | invalid | cancelled | foreign => rfl
  unfold Executor.escalate reported
  rw [if_pos (ha.handled f hrun)]
  cases f.wrapLimit? with
  | some l => rfl
  | none => exact failed_report hstatus

theorem reported_status (f : Failure) : (reported f).status = 500 := by
  unfold reported
  split
  · rfl
  · obtain hsame | hstatus := encoded_cases (json 500 f.toAgentInvocation.body)
    · exact congrArg HttpAnswer.status hsame
    · exact hstatus

/-! ### Answers -/

section
variable {e : Endpoint} {now : Int} {body : List Nat} {entropy : Entropy}

theorem handle_refused {f : Failure} (hparse : parse body = .error f) :
    (handle e now body entropy).answer = failed f := by
  simp only [handle, hparse]

variable {r : Request} (hparse : parse body = .ok r)
include hparse

theorem handle_unidentified {f : Failure} {entropy' : Entropy}
    (hids : (IdSource.ofRequest r e.executor.lengths).run entropy = (.error f, entropy')) :
    (handle e now body entropy).answer = failed f := by
  simp only [handle, hparse, hids]

variable {ids : IdSource} {entropy' : Entropy} (hstreaming : r.isStreaming = false)
  (hids : (IdSource.ofRequest r e.executor.lengths).run entropy = (.ok ids, entropy'))
include hstreaming hids

theorem handle_whole :
    (handle e now body entropy).answer =
      match ((e.executor.respond r ids now).run entropy').1 with
      | .ok response => completed response
      | .error f => failed f := by
  simp only [handle, hparse, hids, hstreaming]
  generalize (e.executor.respond r ids now).run entropy' = outcome
  obtain ⟨given | given, last⟩ := outcome <;> rfl

end

/-- How a request that asks for no stream is answered, by what an agent's run comes to: with the
report of its failure, or with a response that conveys its contents, where one can be made and
told. -/
def Answered (r : Request) (ids : IdSource) (now : Int) (answer : HttpAnswer) :
    Except Failure Run → Prop
  | .error f => answer = reported f
  | .ok run => match answerTime? r now run with
    | .error f => answer = internalError f.name
    | .ok t => ∃ output, Item.Conveys output (run.messages.flatMap Message.contents) ∧
        let response : Response := .build r ids .completed output run.usage t
        let told := r.Tellable ∧ response.Encodable
        (told → answer = json 200 response.write) ∧ (¬told → answer.status = 500)

/-- Such an answer blames nobody who asked. -/
theorem Answered.status {r : Request} {ids : IdSource} {now : Int} {answer : HttpAnswer}
    {outcome : Except Failure Run} (h : Answered r ids now answer outcome) :
    answer.status = 200 ∨ answer.status = 500 := by
  cases outcome with
  | error f => exact .inr ((congrArg HttpAnswer.status h).trans (reported_status f))
  | ok run =>
    cases htime : answerTime? r now run with
    | error f =>
      simp only [Answered, htime] at h
      exact .inr (congrArg HttpAnswer.status h)
    | ok t =>
      simp only [Answered, htime] at h
      obtain ⟨output, -, htold, huntold⟩ := h
      by_cases h : r.Tellable ∧ (Response.build r ids .completed output run.usage t).Encodable
      · exact .inl (congrArg HttpAnswer.status (htold h))
      · exact .inr (huntold h)

theorem answered_respond {e : Executor} (ha : e.agent.Answers) (r : Request) {ids : IdSource}
    (now : Int) (entropy : Entropy) (hdrawable : 0 ≤ ids.layout.entropy) :
    Answered r ids now
      (match ((e.respond r ids now).run entropy).1 with
        | .ok response => completed response
        | .error f => failed f) e.agent.run := by
  cases hrun : e.agent.run with
  | error f =>
    rw [Executor.respond_of_failed hrun]
    exact failed_escalate ha hrun
  | ok run =>
    obtain ⟨entropy', hresponse⟩ := Executor.respond_of_run hrun r now entropy hdrawable
    cases htime : answerTime? r now run with
    | error f =>
      obtain ⟨m, rfl⟩ := answerTime?_error htime
      simp only [htime] at hresponse
      simp only [Answered, htime, hresponse]
      rfl
    | ok t =>
      simp only [htime] at hresponse
      obtain ⟨output, hconveys, hresponse⟩ := hresponse
      simp only [Answered, htime, hresponse]
      refine ⟨output, hconveys, fun ⟨htellable, hencodable⟩ => ?_, fun h => ?_⟩
      · exact completed_build ids run.usage t hconveys.loose htellable hencodable
      · exact completed_build_status ids run.usage t hconveys.loose h

section
variable {e : Endpoint} (now : Int) {l : Layout} {body : List Nat} {entropy : Entropy}
  (hlengths : e.executor.lengths = l.lengths) (hentropy : 0 ≤ l.entropy)
  (hpartition : 0 < l.partition)
include hlengths hentropy hpartition

theorem handle_unreadable {r : Request} (hr : Holds body r) {s : String}
    (hs : r.unreadable? l = some s) : (handle e now body entropy).answer =
      encoded (json 400 (Report.malformedIdentifier (.text s)).body) := by
  obtain ⟨entropy', hids⟩ :=
    IdSource.ofRequest_of_unreadable r hentropy (Int.le_of_lt hpartition) hs
  rw [← hlengths] at hids
  exact (handle_unidentified (parse_of_holds hr) hids).trans (failed_report rfl)

variable (hchars : entropy.Alphanumeric) (ha : e.executor.agent.Answers)
include hchars ha

theorem handle_readable {r : Request} (hr : Holds body r) (hreadable : r.unreadable? l = none) :
    ∃ ids entropy', (IdSource.ofRequest r e.executor.lengths).run entropy = (.ok ids, entropy') ∧
      if r.isStreaming then (handle e now body entropy).answer.status = 200
      else Answered r ids now (handle e now body entropy).answer e.executor.agent.run := by
  obtain ⟨ids, entropy', hids, hlayout⟩ :=
    IdSource.ofRequest_of_readable r hentropy hpartition hchars hreadable
  rw [← hlengths] at hids
  refine ⟨ids, entropy', hids, ?_⟩
  cases hstreaming : r.isStreaming with
  | true =>
    exact congrArg HttpAnswer.status (handle_streaming e now (parse_of_holds hr) hids hstreaming)
  | false =>
    rw [handle_whole (parse_of_holds hr) hstreaming hids]
    exact answered_respond ha r now entropy' (hlayout ▸ hentropy)

/-- Only a request with an unreadable identifier is to blame for its answer. -/
theorem isSome_unreadable_of_status {r : Request} (hr : Holds body r)
    (hstatus : (handle e now body entropy).answer.status = 400) : (r.unreadable? l).isSome := by
  cases hs : r.unreadable? l with
  | some s => rfl
  | none =>
    obtain ⟨ids, entropy', -, hanswer⟩ :=
      handle_readable now hlengths hentropy hpartition hchars ha hr hs
    exfalso
    split at hanswer
    · exact absurd (hanswer.symm.trans hstatus) (by decide)
    · obtain hother | hother := hanswer.status <;>
        exact absurd (hother.symm.trans hstatus) (by decide)

/-- The code for an unfit body is kept for unfit bodies. -/
theorem reports_invalidRequest_iff :
    Reports (handle e now body entropy).answer 400 "INVALID_REQUEST" ↔ Unfit body := by
  constructor
  · refine fun hreports => ⟨fun htooDeep => ?_, fun r hr => ?_⟩
    · rw [handle_refused (parse_of_tooDeep htooDeep)] at hreports
      exact absurd hreports.status_eq (by decide)
    · obtain ⟨s, hs⟩ := Option.isSome_iff_exists.mp (isSome_unreadable_of_status now hlengths
        hentropy hpartition hchars ha hr hreports.status_eq)
      rw [handle_unreadable now hlengths hentropy hpartition hr hs] at hreports
      obtain hsame | hstatus :=
        encoded_cases (json 400 (Report.malformedIdentifier (.text s)).body)
      · rw [hsame] at hreports
        exact hreports.not_both ⟨_, _, rfl⟩
      · exact absurd (hreports.status_eq.symm.trans hstatus) (by decide)
  · intro hunfit
    obtain ⟨message, hlow, hparse⟩ := parse_of_unfit hunfit
    rw [handle_refused hparse, failed_invalidRequest hlow]
    exact ⟨_, _, rfl⟩

/-- **The status of an answer tells whose failure it is.** A body that is unfit to be a request is
refused as such, and no other is. A request with an unreadable conversation identifier is refused
for that one, and no other is. All else is answered by what the agent's run comes to. -/
theorem handle_answers :
    let answer := (handle e now body entropy).answer
    (Reports answer 400 "INVALID_REQUEST" ↔ Unfit body) ∧
      (document body = some (.error .tooDeep) → answer = internalError "RecursionError") ∧
      ∀ r, Holds body r →
        (Reports answer 400 "INVALID_ID" → (r.unreadable? l).isSome) ∧
        (∀ s, r.unreadable? l = some s →
          answer = encoded (json 400 (Report.malformedIdentifier (.text s)).body)) ∧
        (r.unreadable? l = none → r.isStreaming = false → ∃ ids entropy',
          (IdSource.ofRequest r e.executor.lengths).run entropy = (.ok ids, entropy') ∧
            Answered r ids now answer e.executor.agent.run) := by
  intro answer
  refine ⟨reports_invalidRequest_iff now hlengths hentropy hpartition hchars ha,
    fun htooDeep => ?_,
    fun r hr => ⟨fun hreports => ?_, fun s hs => ?_, fun hnone hstreaming => ?_⟩⟩
  · exact handle_refused (parse_of_tooDeep htooDeep)
  · exact isSome_unreadable_of_status now hlengths hentropy hpartition hchars ha hr
      hreports.status_eq
  · exact handle_unreadable now hlengths hentropy hpartition hr hs
  · obtain ⟨ids, entropy', hids, hanswer⟩ :=
      handle_readable now hlengths hentropy hpartition hchars ha hr hnone
    rw [hstreaming] at hanswer
    exact ⟨ids, entropy', hids, hanswer⟩

end

/-! ### An answer of no bounded temperature -/

/-- A request with a number in it that an answer cannot tell. -/
def boundless : Request := { Request.ofText "Hi" with temperature := some (.infinity false) }

def boundlessBody : List Nat :=
  "\x7b\"input\":\"Hi\",\"temperature\":1e400\x7d".toList.map Char.toNat

theorem boundless_holds : Holds boundlessBody boundless := by
  have hdocument : document boundlessBody = some (.ok (.object
      [("input", .text "Hi"), ("temperature", .float (.infinity false))])) := by
    decide +kernel
  exact ⟨_, hdocument, by decide +kernel⟩

theorem speaker_run :
    ∃ run, speaker.executor.agent.run = .ok run ∧ answerTime? boundless 7 run = .ok 7 :=
  ⟨_, rfl, rfl⟩

/-- The agent succeeds, and still the answer is an internal error. -/
theorem boundless_fails :
    speaker.executor.agent.Answers ∧ speaker.executor.lengths = Layout.standard.lengths ∧
      Entropy.cyclic.Alphanumeric ∧ Holds boundlessBody boundless ∧
      (∃ run, speaker.executor.agent.run = .ok run) ∧
      (handle speaker 7 boundlessBody .cyclic).answer.status = 500 := by
  obtain ⟨run, hrun, htime⟩ := speaker_run
  have hanswers : speaker.executor.agent.Answers := by
    refine ⟨fun f hf => ?_, fun q hq => ?_⟩
    · rw [hrun] at hf
      cases hf
    · rw [hrun] at hq
      cases hq
  have hlengths : speaker.executor.lengths = Layout.standard.lengths := rfl
  refine ⟨hanswers, hlengths, Entropy.cyclic_alphanumeric, boundless_holds, ⟨run, hrun⟩, ?_⟩
  obtain ⟨-, -, hholds⟩ :=
    handle_answers 7 hlengths (by decide) (by decide) Entropy.cyclic_alphanumeric hanswers
  obtain ⟨ids, _, -, hanswered⟩ := (hholds _ boundless_holds).2.2 rfl rfl
  simp only [hrun, Answered, htime] at hanswered
  obtain ⟨output, -, -, huntold⟩ := hanswered
  refine huntold fun htold => ?_
  have hbounded : (Double.infinity false).isFinite = true := htold.1.temperature
  exact absurd hbounded (by decide)

end Service
end AgentGateway
