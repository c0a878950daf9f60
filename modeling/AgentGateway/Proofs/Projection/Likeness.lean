import AgentGateway.Proofs.Projection.Acts
import AgentGateway.Proofs.Run.Chunking

/-! Projections that cannot be told apart by what is still to come.

Two states are *alike* when nothing that a projection does later tells them apart: numbers
aside they hold the same, but the text so far of the open item may be in other pieces, and of
the update before they know the same identity. From alike states every act tells the same and
arrives at alike states (`steps_alike`, `ending_alike`).

Two stretches may be alike to a consumer who attends to some of the events only. -/
namespace AgentGateway

namespace ItemBuilder

/-- A builder with the text gathered so far in one piece. -/
def joined (b : ItemBuilder) : ItemBuilder := { b with chunks := [b.text] }

theorem joined_eq_iff {b b' : ItemBuilder} :
    b.joined = b'.joined ↔ b.text = b'.text ∧ b' = { b with chunks := b'.chunks } := by
  obtain ⟨kind, index, completed, itemId, chunks⟩ := b
  obtain ⟨kind', index', completed', itemId', chunks'⟩ := b'
  simp only [joined, ItemBuilder.mk.injEq, List.cons.injEq, and_true]
  constructor
  · rintro ⟨rfl, rfl, rfl, rfl, htext⟩
    exact ⟨htext, rfl, rfl, rfl, rfl⟩
  · rintro ⟨htext, rfl, rfl, rfl, rfl⟩
    exact ⟨rfl, rfl, rfl, rfl, htext⟩

/-- Completing an item tells its text, whatever the pieces. -/
theorem completion_joined (b : ItemBuilder) : b.joined.completion = b.completion := by
  have htext : b.joined.text = b.text := by simp [joined, text]
  have hkind : b.joined.kind = b.kind := rfl
  have hid : b.joined.itemId = b.itemId := rfl
  unfold completion
  rw [htext, hkind, hid]
  rfl

theorem joined_after {b b' : ItemBuilder} (h : b.joined = b'.joined) (body : Event.Body) :
    (b.after body).joined = (b'.after body).joined := by
  obtain ⟨htext, hb⟩ := joined_eq_iff.mp h
  cases body with
  | textDelta =>
    refine joined_eq_iff.mpr ⟨?_, ?_⟩
    · simpa only [after, text, String.join_append] using congrArg (· ++ _) htext
    · rw [hb]
      rfl
  | _ => exact h

theorem joined_foldl_after {b b' : ItemBuilder} (h : b.joined = b'.joined)
    (told : List Event.Body) : (told.foldl after b).joined = (told.foldl after b').joined := by
  induction told generalizing b b' with
  | nil => exact h
  | cons body rest ih => exact ih (joined_after h body)

end ItemBuilder

namespace Projection

/-! ### Alike -/

structure Account.Alike (a a' : Account) : Prop where
  builder : a.builder.map ItemBuilder.joined = a'.builder.map ItemBuilder.joined
  output : a.output = a'.output
  usage : a.usage = a'.usage
  nextIndex : a.nextIndex = a'.nextIndex

structure State.Alike (p q : State) : Prop where
  account : p.account.Alike q.account
  ids : p.supply.ids = q.supply.ids
  entropy : p.supply.entropy = q.supply.entropy
  previous : p.previous.map Update.identity = q.previous.map Update.identity
  reason : p.reason = q.reason
  cancelled : p.cancelled = q.cancelled

/-- Stretches that tell a consumer who attends to some events only the same, and that end
alike. -/
structure Stretch.Alike (seen : Event.Body → Bool) (s t : Stretch) : Prop where
  bodies : s.bodies.filter seen = t.bodies.filter seen
  failure : s.failure = t.failure
  state : s.failure = none → s.state.Alike t.state

theorem Account.Alike.refl (a : Account) : Alike a a := ⟨rfl, rfl, rfl, rfl⟩

theorem State.Alike.refl (p : State) : Alike p p := ⟨.refl _, rfl, rfl, rfl, rfl, rfl⟩

theorem State.Alike.trans {p q r : State} (h : Alike p q) (h' : Alike q r) : Alike p r :=
  ⟨⟨h.account.builder.trans h'.account.builder, h.account.output.trans h'.account.output,
      h.account.usage.trans h'.account.usage, h.account.nextIndex.trans h'.account.nextIndex⟩,
    h.ids.trans h'.ids, h.entropy.trans h'.entropy, h.previous.trans h'.previous,
    h.reason.trans h'.reason, h.cancelled.trans h'.cancelled⟩

namespace Stretch.Alike
variable {seen : Event.Body → Bool} {s t u : Stretch}

theorem refl (s : Stretch) : Alike seen s s := ⟨rfl, rfl, fun _ => .refl _⟩

theorem trans (h : Alike seen s t) (h' : Alike seen t u) : Alike seen s u :=
  ⟨h.bodies.trans h'.bodies, h.failure.trans h'.failure,
    fun hs => (h.state hs).trans (h'.state (h.failure ▸ hs))⟩

theorem quiet {p q : State} (h : p.Alike q) : Alike seen (.quiet p) (.quiet q) :=
  ⟨rfl, rfl, fun _ => h⟩

theorem failed (p q : State) (f : Failure) : Alike seen (.failed p f) (.failed q f) :=
  ⟨rfl, rfl, fun h => by cases h⟩

/-- Alike stretches that go on alike. -/
theorem andThen {next next' : State → Stretch} (h : Alike seen s t)
    (hnext : s.failure = none → s.state.Alike t.state →
      Alike seen (next s.state) (next' t.state)) :
    Alike seen (s.andThen next) (t.andThen next') := by
  cases hs : s.failure with
  | some f =>
    rw [andThen_of_fails next hs, andThen_of_fails next' (h.failure ▸ hs)]
    exact h
  | none =>
    have ht : t.failure = none := h.failure ▸ hs
    have hgo := hnext hs (h.state hs)
    refine ⟨?_, ?_, fun _ => ?_⟩
    · rw [bodies_andThen next hs, bodies_andThen next' ht, List.filter_append, List.filter_append,
        h.bodies, hgo.bodies]
    · rw [andThen_of_ends next hs, andThen_of_ends next' ht]
      exact hgo.failure
    · rw [state_andThen next hs, state_andThen next' ht]
      refine hgo.state ?_
      rename_i hnone
      exact (failure_andThen_eq_none.mp hnone).2

end Stretch.Alike

/-! ### Telling from alike states -/

/-- Telling arrives at alike states if it does with the accounts and the entropy. -/
theorem State.Alike.of_telling {p q : State} (h : p.Alike q) {s t : Stretch}
    (hs : Stretch.Telling p s) (ht : Stretch.Telling q t)
    (haccount : s.state.account.Alike t.state.account)
    (hentropy : s.state.supply.entropy = t.state.supply.entropy) : s.state.Alike t.state where
  account := haccount
  ids := by rw [hs.ids, ht.ids, h.ids]
  entropy := hentropy
  previous := by rw [hs.previous, ht.previous, h.previous]
  reason := by rw [hs.reason, ht.reason, h.reason]
  cancelled := by rw [hs.cancelled, ht.cancelled, h.cancelled]

variable {seen : Event.Body → Bool} {p q : State}

/-- Events that show the same, finish the same items and leave the same text are alike. -/
theorem emitBodies_alike_of (h : p.Alike q) {b b' : ItemBuilder} {told told' : List Event.Body}
    (hseen : told.filter seen = told'.filter seen) (hfinished : finished told = finished told')
    (hafter : (told.foldl ItemBuilder.after b).joined = (told'.foldl ItemBuilder.after b').joined) :
    Stretch.Alike seen (emitBodies p b told) (emitBodies q b' told') := by
  obtain ⟨hends, hbodies, haccount⟩ := emitBodies_tells p b told
  obtain ⟨hends', hbodies', haccount'⟩ := emitBodies_tells q b' told'
  refine ⟨by rw [hbodies, hbodies', hseen], hends.trans hends'.symm, fun _ => ?_⟩
  refine h.of_telling (emitBodies_telling p b told) (emitBodies_telling q b' told') ?_ ?_
  · have houtput : p.output = q.output := h.account.output
    rw [haccount, haccount', houtput, hfinished]
    exact ⟨congrArg some hafter, rfl, h.account.usage, h.account.nextIndex⟩
  · rw [emitBodies_entropy, emitBodies_entropy, h.entropy]

theorem emitBodies_alike (h : p.Alike q) {b b' : ItemBuilder} (hb : b.joined = b'.joined)
    (told : List Event.Body) :
    Stretch.Alike seen (emitBodies p b told) (emitBodies q b' told) :=
  emitBodies_alike_of h rfl rfl (ItemBuilder.joined_foldl_after hb told)

theorem closing_alike {a a' : Account} (h : a.Alike a') : a.closing = a'.closing := by
  have hjoined (a : Account) :
      a.closing = ((a.builder.map ItemBuilder.joined).map ItemBuilder.completion).getD [] := by
    cases hb : a.builder <;> simp [Account.closing, hb, ItemBuilder.completion_joined]
  rw [hjoined, hjoined, h.builder]

theorem close_alike (h : p.Alike q) : Stretch.Alike seen (close p) (close q) := by
  obtain ⟨hends, hbodies, haccount⟩ := close_tells p
  obtain ⟨hends', hbodies', haccount'⟩ := close_tells q
  have hclosing := closing_alike h.account
  refine ⟨by rw [hbodies, hbodies', hclosing], hends.trans hends'.symm, fun _ => ?_⟩
  refine h.of_telling (close_telling p) (close_telling q) ?_ ?_
  · rw [haccount, haccount']
    refine ⟨rfl, ?_, h.account.usage, h.account.nextIndex⟩
    simp only [Account.closed, hclosing, h.account.output]
  · rw [close_entropy, close_entropy, h.entropy]

/-- What a drawing gives does not depend on the numbers drawn so far. -/
theorem draw_alike (h : p.Alike q) (d : IdSource → Drawing String) :
    (p.supply.draw d).1 = (q.supply.draw d).1 ∧
      State.Alike { p with supply := (p.supply.draw d).2 }
        { q with supply := (q.supply.draw d).2 } := by
  obtain ⟨haccount, hids, hentropy, hprevious, hreason, hcancelled⟩ := h
  rw [Supply.draw_apply, Supply.draw_apply, hids, hentropy]
  exact ⟨rfl, haccount, rfl, rfl, hprevious, hreason, hcancelled⟩

theorem tell_alike (h : p.Alike q) {b b' : ItemBuilder} (hb : b.joined = b'.joined)
    (c : Content) : Stretch.Alike seen (tell p b c) (tell q b' c) := by
  obtain ⟨htext, hb'⟩ := ItemBuilder.joined_eq_iff.mp hb
  obtain ⟨kind, index, completed, itemId, chunks⟩ := b
  generalize b'.chunks = chunks' at hb'
  subst hb'
  have hjoined (completed : Bool) (itemId : Option String) :
      ItemBuilder.joined ⟨kind, index, completed, itemId, chunks⟩ =
        ItemBuilder.joined ⟨kind, index, completed, itemId, chunks'⟩ :=
    ItemBuilder.joined_eq_iff.mpr ⟨htext, rfl⟩
  have haccept : ItemBuilder.accept ⟨kind, index, completed, itemId, chunks'⟩ (kind.supports c)
      c.kindName = ItemBuilder.accept ⟨kind, index, completed, itemId, chunks⟩ (kind.supports c)
        c.kindName := rfl
  simp only [tell, ItemBuilder.start, haccept]
  cases ItemBuilder.accept ⟨kind, index, completed, itemId, chunks⟩ (kind.supports c)
      c.kindName with
  | error r => exact .failed p q _
  | ok _ =>
    simp only [bind, Except.bind, pure, Except.pure, ItemBuilder.unfold]
    cases itemId with
    | some id => exact emitBodies_alike h (hjoined _ _) _
    | none =>
      obtain ⟨hdrawn, hafter⟩ := draw_alike h (ItemBuilder.drawId kind)
      generalize p.supply.draw (ItemBuilder.drawId kind) = d at *
      generalize q.supply.draw (ItemBuilder.drawId kind) = e at *
      obtain ⟨drawn, supply⟩ := d
      obtain ⟨drawn', supply'⟩ := e
      obtain rfl : drawn = drawn' := hdrawn
      cases drawn with
      | error f => exact .failed _ _ f
      | ok id => exact emitBodies_alike hafter (hjoined _ _) _

theorem tellFirst_alike (h : p.Alike q) (b : ItemBuilder) (c : Content) :
    Stretch.Alike seen (tellFirst p b c) (tellFirst q b c) := by
  unfold tellFirst
  cases c.limit? with
  | none => exact tell_alike h rfl c
  | some l =>
    cases c.isImage with
    | true => exact .failed _ _ _
    | false =>
      obtain ⟨hdrawn, -⟩ := draw_alike h (ItemBuilder.drawId b.kind)
      simp only [Bool.false_eq_true, if_false]
      generalize p.supply.draw (ItemBuilder.drawId b.kind) = d at *
      generalize q.supply.draw (ItemBuilder.drawId b.kind) = e at *
      obtain ⟨drawn, supply⟩ := d
      obtain ⟨drawn', supply'⟩ := e
      obtain rfl : drawn = drawn' := hdrawn
      cases drawn with
      | error f => exact .failed _ _ f
      | ok id => exact .failed _ _ _

theorem introduce_alike (h : p.Alike q) (g : Setting) (c : Content) :
    Stretch.Alike seen (introduce g p c) (introduce g q c) := by
  unfold introduce openBuilder
  cases g.kinds.find? fun k => k.supports c with
  | none => exact .quiet h
  | some k =>
    have hindex : p.nextIndex = q.nextIndex := h.account.nextIndex
    have hopened : State.Alike
        { p with
          builder := some (.new k q.nextIndex)
          nextIndex := q.nextIndex + 1
          phase := .streaming }
        { q with
          builder := some (.new k q.nextIndex)
          nextIndex := q.nextIndex + 1
          phase := .streaming } :=
      ⟨⟨rfl, h.account.output, h.account.usage, rfl⟩, h.ids, h.entropy, h.previous, h.reason,
        h.cancelled⟩
    simp only [Option.map_some, hindex]
    exact tellFirst_alike hopened _ c

theorem continues_alike (h : p.Alike q) (c : Content) :
    (continues p c).map ItemBuilder.joined = (continues q c).map ItemBuilder.joined := by
  have hjoined (r : State) : (continues r c).map ItemBuilder.joined =
      (r.builder.map ItemBuilder.joined).filter fun b => !b.completed && b.kind.supports c := by
    unfold continues
    cases r.builder with
    | none => rfl
    | some b =>
      have htakes : (!b.joined.completed && b.joined.kind.supports c) =
          (!b.completed && b.kind.supports c) := rfl
      rw [Option.map_some, Option.filter_some, Option.filter_some, htakes]
      split <;> rfl
  rw [hjoined, hjoined]
  exact congrArg _ h.account.builder

theorem content_alike (h : p.Alike q) (g : Setting) (c : Content) :
    Stretch.Alike seen (content g p c) (content g q c) := by
  by_cases husage : ∃ details, c.body = .usage details
  · obtain ⟨details, hc⟩ := husage
    have hcounts : p.usage = q.usage := h.account.usage
    simp only [content, hc, hcounts]
    exact .quiet ⟨⟨h.account.builder, h.account.output, rfl, h.account.nextIndex⟩, h.ids,
      h.entropy, h.previous, h.reason, h.cancelled⟩
  have hc : ∀ details, c.body ≠ .usage details := fun details he => husage ⟨details, he⟩
  have hcontinues := continues_alike h c
  cases hp : continues p c with
  | none =>
    rw [hp, Option.map_none] at hcontinues
    rw [content_of_not_continues hc hp,
      content_of_not_continues hc (Option.map_eq_none_iff.mp hcontinues.symm)]
    exact (close_alike h).andThen fun _ halike => introduce_alike halike g c
  | some b =>
    rw [hp, Option.map_some] at hcontinues
    obtain ⟨b', hq, hb⟩ := Option.map_eq_some_iff.mp hcontinues.symm
    rw [content_of_continues hc hp, content_of_continues hc hq]
    exact tell_alike h hb.symm c

theorem contents_alike (h : p.Alike q) (g : Setting) (cs : List Content) :
    Stretch.Alike seen (contents g p cs) (contents g q cs) := by
  induction cs generalizing p q with
  | nil => exact .quiet h
  | cons c rest ih => exact (content_alike h g c).andThen fun _ halike => ih halike

/-- Alike states with the updates before them, of one identity. -/
theorem State.Alike.with_previous (h : p.Alike q) {u u' : Update}
    (hidentity : u.identity = u'.identity) :
    State.Alike { p with previous := some u } { q with previous := some u' } :=
  ⟨h.account, h.ids, h.entropy, congrArg some hidentity, h.reason, h.cancelled⟩

theorem closedFor_alike (h : p.Alike q) {u u' : Update} (hidentity : u.identity = u'.identity) :
    Stretch.Alike seen (closedFor p u) (closedFor q u') := by
  unfold closedFor
  rw [Update.isNewMessage_congr hidentity h.previous]
  split
  · exact close_alike h
  · exact .quiet h

/-- Updates of one identity are alike if their contents are, from where they begin. -/
theorem update_alike_of (h : p.Alike q) {g : Setting} {u u' : Update}
    (hidentity : u.identity = u'.identity)
    (hcontents : ∀ r r' : State, r.account = (closedFor p u).state.account → r.Alike r' →
      Stretch.Alike seen (contents g r u.contents) (contents g r' u'.contents)) :
    Stretch.Alike seen (update g p u) (update g q u') := by
  cases hheard : g.cancellable && p.cancelled with
  | true =>
    rw [update_of_cancelled u hheard, update_of_cancelled u' (h.cancelled ▸ hheard)]
    exact .failed p q _
  | false =>
    rw [update_of_heard u hheard, update_of_heard u' (h.cancelled ▸ hheard)]
    refine (closedFor_alike h hidentity).andThen fun _ halike => ?_
    exact hcontents _ _ rfl
      (halike.with_previous (Update.carry_congr hidentity halike.previous))

theorem update_alike (h : p.Alike q) (g : Setting) (u : Update) :
    Stretch.Alike seen (update g p u) (update g q u) :=
  update_alike_of h rfl fun _ _ _ halike => contents_alike halike g u.contents

theorem step_alike (h : p.Alike q) (g : Setting) (s : RunStep) :
    Stretch.Alike seen (step g p s) (step g q s) := by
  cases s with
  | update u => exact update_alike h g u
  | fail f => exact .failed _ _ _
  | cancel => exact .quiet ⟨h.account, h.ids, h.entropy, h.previous, h.reason, rfl⟩
  | incomplete reason => exact .quiet ⟨h.account, h.ids, h.entropy, h.previous, rfl, h.cancelled⟩

theorem steps_alike (h : p.Alike q) (g : Setting) (source : List RunStep) :
    Stretch.Alike seen (steps g p source) (steps g q source) := by
  induction source generalizing p q with
  | nil => exact .quiet h
  | cons s rest ih => exact (step_alike h g s).andThen fun _ halike => ih halike

/-! ### The verdict from alike states -/

theorem snapshot_alike (h : p.Alike q) (g : Setting) (status : ResponseStatus) :
    p.snapshot g status = q.snapshot g status := by
  have houtput : p.output = q.output := h.account.output
  have husage : p.usage = q.usage := h.account.usage
  simp only [State.snapshot, h.ids, houtput, husage]

theorem envelope_alike (h : p.Alike q) (kind : Envelope) {snapshot : State → Response}
    (hsnapshot : snapshot p = snapshot q) :
    Stretch.Alike seen (envelope kind snapshot p) (envelope kind snapshot q) := by
  have hbodies (r : State) : (envelope kind snapshot r).bodies = [.envelope kind (snapshot r)] := rfl
  refine ⟨by rw [hbodies, hbodies, hsnapshot], rfl, fun _ => ?_⟩
  exact ⟨h.account, h.ids, h.entropy, h.previous, h.reason, h.cancelled⟩

theorem terminal_alike (h : p.Alike q) (g : Setting) :
    Stretch.Alike seen (terminal g p) (terminal g q) := by
  unfold terminal
  rw [h.reason]
  split
  · exact envelope_alike h .incomplete (by rw [snapshot_alike h])
  · exact .failed p q _
  · exact envelope_alike h .completed (snapshot_alike h g .completed)

theorem ending_alike (h : p.Alike q) (g : Setting) :
    Stretch.Alike seen (ending g p) (ending g q) := by
  have hdraining : State.Alike { p with phase := .draining, source := .over }
      { q with phase := .draining, source := .over } :=
    ⟨h.account, h.ids, h.entropy, h.previous, h.reason, h.cancelled⟩
  refine (close_alike hdraining).andThen fun _ hclosed => ?_
  refine (terminal_alike hclosed g).andThen fun _ hdone => .quiet ?_
  exact ⟨hdone.account, hdone.ids, hdone.entropy, hdone.previous, hdone.reason, hdone.cancelled⟩

end Projection
end AgentGateway
