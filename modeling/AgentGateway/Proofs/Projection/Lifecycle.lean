import AgentGateway.Proofs.Projection.Course

/-! The life of an output item, and lives one after the other.

A text item is opened empty, grows by texts that are not empty, and is done with all of
them put together. A function call is opened without its arguments, which then come all at
once. Every other item is opened with the one part that it ends with.

`lifecycles_told`: whatever a run that ends well tells between its first two events and its
last one is such lives, one after the other, of the items 0, 1, 2 and so on. The invariant is
`Progress`: whole lives, and then the beginning of one that is still open. -/
namespace AgentGateway.Projection

/-- A text item from its opening to the last of some texts. -/
def beginning (index : Int) (id : String) (chunks : List String) : List Event.Body :=
  [.itemAdded index (.message id .inProgress []), .partAdded id index 0 (.outputText "")] ++
    chunks.map (.textDelta id index 0 · [])

/-- What is told of one item, from its opening to its end. -/
inductive Lifecycle (index : Int) (id : String) : List Event.Body → Prop where
  | text {chunks : List String} (nonempty : ∀ s ∈ chunks, s ≠ "") :
      Lifecycle index id (beginning index id chunks ++
        [.textDone id index 0 (String.join chunks) [],
          .partDone id index 0 (.outputText (String.join chunks)),
          .itemDone index (.message id .completed [.outputText (String.join chunks)])])
  | call (callId name arguments : String) :
      Lifecycle index id
        [.itemAdded index (.functionCall id .inProgress callId name ""),
          .argumentsDelta id index arguments,
          .argumentsDone id index arguments,
          .itemDone index (.functionCall id .completed callId name arguments)]
  | result (callId output : String) :
      Lifecycle index id
        [.itemAdded index (.functionOutput id .inProgress callId output),
          .partAdded id index 0 (.outputText output),
          .partDone id index 0 (.outputText output),
          .itemDone index (.functionOutput id .completed callId output)]
  | part (part : Part) :
      Lifecycle index id
        [.itemAdded index (.message id .inProgress [part]),
          .partAdded id index 0 part,
          .partDone id index 0 part,
          .itemDone index (.message id .completed [part])]

/-- Lives one after the other, of the items from the first index up to the last. -/
inductive Lifecycles : Int → List Event.Body → Int → Prop where
  | nil (index : Int) : Lifecycles index [] index
  | snoc {first index : Int} {id : String} {told life : List Event.Body}
      (before : Lifecycles first told index) (last : Lifecycle index id life) :
      Lifecycles first (told ++ life) (index + 1)

/-! ### Whole lives and the beginning of one -/

/-- What has been told when an account is reached: whole lives, and the beginning of the life
of a text item that is still open. -/
inductive Progress (a : Account) : List Event.Body → Prop where
  | closed {told : List Event.Body} (h : a.Closed) (lives : Lifecycles 0 told a.nextIndex) :
      Progress a told
  | opened {index : Int} {id : String} {chunks : List String} {told : List Event.Body}
      (h : a.builder = some (openText index id chunks)) (next : a.nextIndex = index + 1)
      (nonempty : ∀ s ∈ chunks, s ≠ "") (lives : Lifecycles 0 told index) :
      Progress a (told ++ beginning index id chunks)

theorem pieces_nonempty {s : String} : ∀ t ∈ pieces s, t ≠ "" := by
  intro t ht
  unfold pieces at ht
  split at ht
  · cases ht
  · rename_i h
    rw [List.mem_singleton.mp ht]
    rintro rfl
    exact h rfl

theorem deltas_eq (index : Int) (id s : String) :
    ItemBuilder.deltas index id s = (pieces s).map (.textDelta id index 0 · []) := by
  unfold ItemBuilder.deltas pieces
  split <;> rfl

theorem beginning_append (index : Int) (id : String) (chunks more : List String) :
    beginning index id (chunks ++ more) =
      beginning index id chunks ++ more.map (.textDelta id index 0 · []) := by
  simp only [beginning, List.map_append, List.append_assoc]

/-- A content that is told whole is told as a life. -/
theorem lifecycle_whole {k : BuilderKind} {c : Content} (hs : k.supports c = true)
    (ht : k ≠ .text) (index : Int) (id : String) :
    Lifecycle index id (ItemBuilder.opening k index id c) := by
  obtain ⟨callId, name, _, _, h⟩ | ⟨callId, _, _, _, h⟩ | ⟨part, _, h⟩ :=
    BuilderKind.opening_whole hs ht index id
  · rw [h]
    exact .call callId name _
  · rw [h]
    exact .result callId _
  · rw [h]
    exact .part part

namespace Progress
variable {kinds : List BuilderKind} {l : Layout} {a a' : Account} {told more : List Event.Body}

/-- Closing ends the life that is open. -/
theorem closing (h : Progress a told) : Lifecycles 0 (told ++ a.closing) a.nextIndex := by
  cases h with
  | closed h lives =>
    rw [Account.closing_of_closed h, List.append_nil]
    exact lives
  | opened h next nonempty lives =>
    rw [Account.closing_of_open h, next, List.append_assoc]
    exact .snoc lives (.text nonempty)

theorem tells {beat : Beat} (h : Progress a told) (ht : Tells kinds l a beat more a') :
    Progress a' (told ++ more) := by
  cases ht with
  | boundary => exact .closed (.closed a) h.closing
  | usage =>
    rw [List.append_nil]
    cases h with
    | closed h lives => exact .closed h lives
    | opened h next nonempty lives => exact .opened h next nonempty lives
  | delta hb hc =>
    cases h with
    | closed h _ => cases h _ hb
    | opened h next nonempty lives =>
      rw [hb, Option.some.injEq, openText, openText, ItemBuilder.mk.injEq] at h
      obtain ⟨-, rfl, -, hid, rfl⟩ := h
      obtain rfl := Option.some.inj hid
      rw [List.append_assoc, deltas_eq, ← beginning_append]
      refine .opened rfl next ?_ lives
      intro t ht
      exact (List.mem_append.mp ht).elim (nonempty t) (pieces_nonempty t)
  | dropped => exact .closed (.closed a) h.closing
  | text id _ _ hb hc =>
    have lives := h.closing
    rw [Account.closing_of_closed hb, List.append_nil] at lives
    rw [opening_text hc, deltas_eq]
    exact .opened rfl rfl pieces_nonempty lives
  | whole id _ _ hs ht hb =>
    refine .closed (fun b' hb' => ?_) ?_
    · cases hb'
      exact hb
    · rw [← List.append_assoc]
      exact .snoc h.closing (lifecycle_whole hs ht _ id)

theorem tale {bs : List Beat} (h : Progress a told) (ht : Tale kinds l a bs more a') :
    Progress a' (told ++ more) := by
  induction ht generalizing told with
  | nil =>
    rw [List.append_nil]
    exact h
  | cons head _ ih =>
    rw [← List.append_assoc]
    exact ih (h.tells head)

end Progress

/-- A tale from the start on is lives and the beginning of one. -/
theorem Tale.progress {kinds : List BuilderKind} {l : Layout} {a : Account} {bs : List Beat}
    {told : List Event.Body} (h : Tale kinds l .empty bs told a) : Progress a told := by
  have hempty : Progress .empty [] := .closed (fun b hb => by cases hb) (.nil 0)
  exact hempty.tale h

/-- Lives, and the beginning of one, tell of items and nothing of the whole response. -/
theorem Lifecycles.envelope_not_mem {first index : Int} {told : List Event.Body}
    (h : Lifecycles first told index) (kind : Envelope) (r : Response) :
    .envelope kind r ∉ told := by
  induction h with
  | nil => exact List.not_mem_nil
  | snoc _ last ih =>
    refine fun hmem => (List.mem_append.mp hmem).elim ih fun hlife => ?_
    cases last <;> simp [beginning] at hlife

theorem Progress.envelope_not_mem {a : Account} {told : List Event.Body} (h : Progress a told)
    (kind : Envelope) (r : Response) : .envelope kind r ∉ told := by
  cases h with
  | closed _ lives => exact lives.envelope_not_mem kind r
  | opened _ _ _ lives =>
    refine fun hmem => (List.mem_append.mp hmem).elim (lives.envelope_not_mem kind r) ?_
    simp [beginning]

/-- What a run says of the whole response: that it has begun, and its verdict at the end. -/
theorem Attended.envelope_cases (g : Setting) (voice : Voice) {supply : Supply}
    {reason : Option Value} {cancelled : Bool} {source : List RunStep} {kind : Envelope}
    {r : Response}
    (hmem : .envelope kind r ∈
      (project g voice (State.fresh supply reason cancelled) source).bodies) :
    let whole := project g voice (State.fresh supply reason cancelled) source
    (kind = .created ∨ kind = .inProgress) ∧ r = Account.empty.snapshot g supply.ids .inProgress ∨
      whole.failure = none ∧ whole.bodies.getLast? = some (.envelope kind r) ∧
        ∃ a cut, Verdict g supply.ids a cut kind r := by
  obtain ⟨bs, told, a, last, htale, hbodies, hlast⟩ :=
    project_told g voice supply reason cancelled source
  rw [hbodies, List.append_assoc] at hmem
  rcases List.mem_append.mp hmem with hherald | hmem
  · left
    simpa [heralds, or_and_right] using hherald
  · rcases List.mem_append.mp hmem with htold | hmem
    · exact absurd htold (htale.progress.envelope_not_mem kind r)
    · obtain ⟨-, rfl⟩ | ⟨hends, -, -, kind', r', rfl, hverdict⟩ := hlast
      · cases hmem
      · obtain ⟨rfl, rfl⟩ := Event.Body.envelope.inj (List.mem_singleton.mp hmem)
        exact .inr ⟨hends, by rw [hbodies, List.getLast?_concat], a, _, hverdict⟩

/-- **A run that ends well** tells lives between its first two events and its last one, one
after the other, of items that are numbered from zero. -/
theorem lifecycles_told {g : Setting} {supply : Supply} {reason : Option Value} {cancelled : Bool}
    {source : List RunStep}
    (h : (project g (State.fresh supply reason cancelled) source).failure = none) :
    ∃ created started told kind last count,
      (project g (State.fresh supply reason cancelled) source).bodies =
        [.envelope .created created, .envelope .inProgress started] ++ told ++
          [.envelope kind last] ∧
      (kind = .completed ∨ kind = .incomplete) ∧ Lifecycles 0 told count := by
  obtain ⟨told, a, kind, last, htale, hverdict, hbodies, -⟩ := project_tale h
  have hprogress : Progress .empty [] := .closed (fun b hb => by cases hb) (.nil 0)
  have hlives := (hprogress.tale htale).closing
  exact ⟨_, _, told ++ a.closing, kind, last, a.nextIndex, hbodies, hverdict.kind_eq, hlives⟩

theorem cutShort_lifecycles :
    cutShort.failure = none ∧
      ∃ created started told kind last count,
        cutShort.bodies =
          [.envelope .created created, .envelope .inProgress started] ++ told ++
            [.envelope kind last] ∧
        (kind = .completed ∨ kind = .incomplete) ∧ Lifecycles 0 told count :=
  ⟨rfl, lifecycles_told rfl⟩

end AgentGateway.Projection
