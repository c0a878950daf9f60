import AgentGateway.Proofs.Projection.Telling

/-! What telling takes no notice of.

Of a projection's state, telling an item reads and moves on the open builder, the supply, the
finished items, the next item's index and the phase. The rest is its *margin*: notes that are
made beside the telling and looked at elsewhere. A change of the margin may come before a
content is told or after it, the same is told (`content_noted`). -/
namespace AgentGateway.Projection

/-- What stands in the margin of a state. -/
structure Margin where
  usage : Option Usage
  reason : Option Value
  cancelled : Bool
  previous : Option Update
  source : SourceUse

def State.margin (p : State) : Margin := ⟨p.usage, p.reason, p.cancelled, p.previous, p.source⟩

/-- A state whose margin is changed. -/
def State.noted (p : State) (note : Margin → Margin) : State :=
  { p with
    usage := (note p.margin).usage
    reason := (note p.margin).reason
    cancelled := (note p.margin).cancelled
    previous := (note p.margin).previous
    source := (note p.margin).source }

namespace Stretch

/-- A stretch with the margins of all its states changed. -/
def noted (s : Stretch) (note : Margin → Margin) : Stretch :=
  { s with
    emitted := s.emitted.map fun e => { e with state := e.state.noted note }
    state := s.state.noted note }

variable {s : Stretch} (note : Margin → Margin)

@[simp] theorem events_noted : (s.noted note).events = s.events := by
  simp only [events, noted, List.map_map, Function.comp_def]

theorem noted_andThen {next next' : State → Stretch}
    (h : ∀ q, next (q.noted note) = (next' q).noted note) :
    (s.noted note).andThen next = (s.andThen next').noted note := by
  obtain ⟨emitted, state, failure⟩ := s
  cases failure with
  | some f => rfl
  | none => simp [andThen, noted, h]

end Stretch

variable (p : State) (note : Margin → Margin)

theorem emitBodies_noted (b : ItemBuilder) (bodies : List Event.Body) :
    emitBodies (p.noted note) b bodies = (emitBodies p b bodies).noted note := by
  induction bodies generalizing p b with
  | nil => rfl
  | cons body rest ih =>
    have hhead : emitBody (p.noted note) b body =
        ⟨(emitBody p b body).event, (emitBody p b body).state.noted note⟩ := rfl
    simp only [emitBodies, hhead, ih]
    rfl

theorem close_noted : close (p.noted note) = (close p).noted note := by
  have hbuilder : (p.noted note).builder = p.builder := rfl
  unfold close
  rw [hbuilder]
  cases p.builder with
  | none => rfl
  | some b =>
    simp only [Stretch.noted, List.map_map, Function.comp_def]
    rfl

theorem tell_noted (b : ItemBuilder) (c : Content) :
    tell (p.noted note) b c = (tell p b c).noted note := by
  unfold tell
  cases b.start c with
  | error r => rfl
  | ok started =>
    have hsupply : (p.noted note).supply = p.supply := rfl
    simp only [hsupply]
    rcases started.1.unfold p.supply c with ⟨_ | told, supply⟩
    · rfl
    · exact emitBodies_noted { p with supply } note told.1 told.2

theorem tellFirst_noted (b : ItemBuilder) (c : Content) :
    tellFirst (p.noted note) b c = (tellFirst p b c).noted note := by
  unfold tellFirst
  cases c.limit? with
  | none => exact tell_noted p note b c
  | some l =>
    cases c.isImage with
    | true => rfl
    | false =>
      have hsupply : (p.noted note).supply = p.supply := rfl
      simp only [hsupply]
      rcases p.supply.draw (ItemBuilder.drawId b.kind) with ⟨_ | id, supply⟩ <;> rfl

theorem introduce_noted (g : Setting) (c : Content) :
    introduce g (p.noted note) c = (introduce g p c).noted note := by
  unfold introduce openBuilder
  cases g.kinds.find? fun k => k.supports c with
  | none => rfl
  | some k =>
    exact tellFirst_noted { p with
      builder := some (.new k p.nextIndex)
      nextIndex := p.nextIndex + 1
      phase := .streaming } note (.new k p.nextIndex) c

/-- Telling a content takes no notice of the margin. -/
theorem content_noted (g : Setting) {c : Content} (hc : ∀ details, c.body ≠ .usage details) :
    content g (p.noted note) c = (content g p c).noted note := by
  have hcontinues : continues (p.noted note) c = continues p c := rfl
  cases h : continues p c with
  | some b =>
    rw [content_of_continues hc h, content_of_continues hc (hcontinues.trans h)]
    exact tell_noted p note b c
  | none =>
    rw [content_of_not_continues hc h, content_of_not_continues hc (hcontinues.trans h),
      close_noted]
    exact Stretch.noted_andThen note fun q => introduce_noted q note g c

/-! ### Counts

Only token counts are noted in the margin while contents are told. -/

variable (hcounts : ∀ m usage, note { m with usage } = { note m with usage })
include hcounts

/-- Counts may be noted before a change that lets them be, or after it. -/
theorem State.noted_usage (usage : Option Usage) :
    ({ p with usage } : State).noted note = { p.noted note with usage } := by
  have hmargin : note ({ p with usage } : State).margin = { note p.margin with usage } :=
    hcounts p.margin usage
  unfold noted
  rw [hmargin]

/-- Telling all contents takes no notice of what else stands in the margin. -/
theorem contents_noted (g : Setting) (cs : List Content) :
    contents g (p.noted note) cs = (contents g p cs).noted note := by
  induction cs generalizing p with
  | nil => rfl
  | cons c rest ih =>
    have hcontent : content g (p.noted note) c = (content g p c).noted note := by
      by_cases husage : ∃ details, c.body = .usage details
      · obtain ⟨details, hc⟩ := husage
        have hsame : (p.noted note).usage = p.usage :=
          congrArg Margin.usage (hcounts p.margin p.usage)
        simp only [content, hc, hsame, ← p.noted_usage note hcounts]
        rfl
      · exact content_noted p note g fun details he => husage ⟨details, he⟩
    simp only [contents, hcontent]
    exact Stretch.noted_andThen note ih

end AgentGateway.Projection
