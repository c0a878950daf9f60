import AgentGateway.Proofs.Projection.Telling

/-! The acts of a projection.

A projection is a list of acts done one after the other: it opens, takes one step of the
source after the other, closes what is open, and gives its verdict. `step_told` says what a
step tells, however it ends, and `act_draws` what every act does to the supply. What else
holds of every step is a `Stretch.Law`, or a `Stretch.TellingLaw` where it matters who draws: it is
enough that the parts of a step keep it. -/
namespace AgentGateway

/-- A word from outside a run. -/
inductive Word where
  | cancel
  /-- Without a reason an answer is not cut short. -/
  | incomplete (reason : Option Value)
deriving DecidableEq, Repr

/-- The reason for which an answer is cut short, after some more words. -/
def Word.latest (reason : Option Value) : List Word → Option Value
  | [] => reason
  | .cancel :: rest => latest reason rest
  | .incomplete r :: rest => latest r rest

theorem Word.latest_append (reason : Option Value) (ws more : List Word) :
    latest reason (ws ++ more) = latest (latest reason ws) more := by
  induction ws generalizing reason with
  | nil => rfl
  | cons w rest ih => cases w <;> exact ih _

namespace RunStep

/-- The word that a step is, if it is one. -/
def word? : RunStep → Option Word
  | .cancel => some .cancel
  | .incomplete reason => some (.incomplete reason)
  | _ => none

/-- The beats of a step after an update. -/
def beats (previous : Option Update) : RunStep → List Beat
  | .update u =>
    (if Update.isNewMessage (some u) previous then [.boundary] else []) ++ u.contents.map .content
  | _ => []

/-- The update whose identity a step carries on. -/
def carried (previous : Option Update) : RunStep → Option Update
  | .update u => some (u.carry previous)
  | _ => previous

end RunStep

theorem beats_updatesOf_cons (previous : Option Update) (s : RunStep) (rest : List RunStep) :
    beats previous (updatesOf (s :: rest)) =
      s.beats previous ++ beats (s.carried previous) (updatesOf rest) := by
  cases s <;> rfl

namespace Projection

/-! ### Updates and steps -/

/-- The closing that an update begins with where it begins another message. -/
def closedFor (p : State) (u : Update) : Stretch :=
  if Update.isNewMessage (some u) p.previous then close p else .quiet p

theorem closedFor_ends (p : State) (u : Update) : (closedFor p u).failure = none := by
  unfold closedFor
  split
  · exact (close_tells p).1
  · rfl

theorem closedFor_telling (p : State) (u : Update) : Stretch.Telling p (closedFor p u) := by
  unfold closedFor
  split
  · exact close_telling p
  · exact .quiet p

theorem closedFor_told (kinds : List BuilderKind) (l : Layout) (p : State) (u : Update) :
    Stretch.Told kinds l p.account
      (if Update.isNewMessage (some u) p.previous then [.boundary] else []) (closedFor p u) := by
  unfold closedFor
  split
  · exact .of_tale (.single (.boundary p.account)) (close_tells p).2.1 (close_tells p).2.2
  · exact .quiet p

theorem update_of_heard {g : Setting} {p : State} (u : Update)
    (h : (g.cancellable && p.cancelled) = false) :
    update g p u = (closedFor p u).andThen fun q =>
      contents g { q with previous := some (u.carry q.previous) } u.contents := by
  simp only [update, h, Bool.false_eq_true, if_false]
  rfl

theorem update_of_cancelled {g : Setting} {p : State} (u : Update)
    (h : (g.cancellable && p.cancelled) = true) : update g p u = .failed p .cancelled := by
  simp only [update, h, if_true]

theorem update_told (g : Setting) {p : State} (u : Update) (hp : p.account.Resting) :
    Stretch.Told g.kinds p.supply.ids.layout p.account (RunStep.beats p.previous (.update u))
      (update g p u) := by
  cases hheard : g.cancellable && p.cancelled with
  | true =>
    rw [update_of_cancelled u hheard]
    exact .failed ..
  | false =>
    rw [update_of_heard u hheard]
    have hclosed := closedFor_told g.kinds p.supply.ids.layout p u
    refine hclosed.andThen fun hends => ?_
    rw [← (closedFor_telling p u).ids]
    exact contents_told g
      (p := { (closedFor p u).state with
        previous := some (u.carry (closedFor p u).state.previous) })
      u.contents ((hclosed.tale hends).resting hp)

/-- What an update leaves of the words from outside, and of the updates before it. -/
theorem update_kept (g : Setting) (p : State) (u : Update) :
    (update g p u).state.reason = p.reason ∧ (update g p u).state.cancelled = p.cancelled ∧
      ((update g p u).failure = none → (update g p u).state.previous = some (u.carry p.previous)) := by
  cases hheard : g.cancellable && p.cancelled with
  | true =>
    rw [update_of_cancelled u hheard]
    exact ⟨rfl, rfl, fun h => by cases h⟩
  | false =>
    obtain ⟨-, hprevious, hreason, hcancelled, -⟩ := closedFor_telling p u
    rw [update_of_heard u hheard, Stretch.state_andThen _ (closedFor_ends p u)]
    generalize (closedFor p u).state = q at *
    have hkept := contents_telling g { q with previous := some (u.carry q.previous) } u.contents
    refine ⟨hkept.reason.trans hreason, hkept.cancelled.trans hcancelled, fun _ => ?_⟩
    rw [hkept.previous, hprevious]

theorem update_failure (g : Setting) {p : State} (u : Update) (hp : p.account.Resting)
    (hheard : (g.cancellable && p.cancelled) = false)
    (h : 0 ≤ p.supply.ids.layout.entropy ∨
      ∀ c ∈ u.contents, ∀ k ∈ g.kinds, k.supports c = false) :
    (update g p u).failure =
      (u.contents.findSome? (BuilderKind.limit? g.kinds)).map Failure.ofLimit := by
  rw [update_of_heard u hheard, Stretch.andThen_of_ends _ (closedFor_ends p u)]
  have hclosed := closedFor_told g.kinds p.supply.ids.layout p u
  exact contents_failure g (p := { (closedFor p u).state with previous := _ }) u.contents
    ((hclosed.tale (closedFor_ends p u)).resting hp) (by rwa [(closedFor_telling p u).ids])

/-- A step tells the beats of its update, or as many as it comes to. -/
theorem step_told (g : Setting) {p : State} (s : RunStep) (hp : p.account.Resting) :
    Stretch.Told g.kinds p.supply.ids.layout p.account (s.beats p.previous) (step g p s) := by
  cases s with
  | update u => exact update_told g u hp
  | fail f => exact .failed ..
  | cancel => exact .quiet { p with cancelled := true }
  | incomplete reason => exact .quiet { p with reason }

theorem step_previous {g : Setting} {p : State} {s : RunStep} (h : (step g p s).failure = none) :
    (step g p s).state.previous = s.carried p.previous := by
  cases s with
  | update u => exact (update_kept g p u).2.2 h
  | fail f => cases h
  | cancel => rfl
  | incomplete reason => rfl

/-! ### Laws of steps -/

/-- A law of states and what is done from them that is kept where a content is told of an item, and
where what is done is put together. Of the state that a part begins with it reads only the
output, the supply and the phase. -/
structure Stretch.TellingLaw (R : State → Stretch → Prop) : Prop where
  quiet (p : State) : R p (.quiet p)
  /-- Something may have been drawn for what cannot be told. -/
  failed (p : State) (entropy : Entropy) (f : Failure) :
    R p (.failed { p with supply := { p.supply with entropy } } f)
  tell (p : State) {b : ItemBuilder} {c : Content} (hs : b.kind.supports c = true) :
    R p (Projection.tell p b c)
  close (p : State) : R p (Projection.close p)
  andThen {p : State} {s : Stretch} {next : State → Stretch} :
    R p s → (∀ q, R q (next q)) → R p (s.andThen next)
  /-- An item is begun in a state that is streaming, whatever it was before. -/
  of_start {p q : State} {s : Stretch} : R q s → q.output = p.output → q.supply = p.supply →
    q.phase = p.phase ∨ q.phase = .streaming → R p s

namespace Stretch.TellingLaw
variable {R : State → Stretch → Prop} (law : Stretch.TellingLaw R)
include law

theorem tellFirst (p : State) (b : ItemBuilder) {c : Content} (hs : b.kind.supports c = true) :
    R p (Projection.tellFirst p b c) := by
  obtain ⟨-, htold⟩ | ⟨-, entropy, f, hfails⟩ := tellFirst_cases p b c
  · rw [htold]
    exact law.tell p hs
  · rw [hfails]
    exact law.of_start (law.failed { p with builder := some { b with completed := true } } entropy f)
      rfl rfl (.inl rfl)

theorem introduce (g : Setting) (p : State) (c : Content) :
    R p (Projection.introduce g p c) := by
  unfold Projection.introduce openBuilder
  cases hfind : g.kinds.find? fun k => k.supports c with
  | none => exact law.quiet p
  | some k =>
    have hs : k.supports c = true := by simpa using List.find?_some hfind
    exact law.of_start (law.tellFirst _ (ItemBuilder.new k p.nextIndex) hs) rfl rfl (.inr rfl)

theorem content (g : Setting) (p : State) (c : Content) : R p (Projection.content g p c) := by
  unfold Projection.content
  split
  · exact law.of_start (law.quiet _) rfl rfl (.inl rfl)
  · split
    next b hb =>
      obtain ⟨-, htaken⟩ := Option.filter_eq_some_iff.mp hb
      exact law.tell p (Bool.and_eq_true_iff.mp htaken).2
    · exact law.andThen (law.close p) fun q => law.introduce g q c

theorem contents (g : Setting) (p : State) (cs : List Content) :
    R p (Projection.contents g p cs) := by
  induction cs generalizing p with
  | nil => exact law.quiet p
  | cons c rest ih => exact law.andThen (law.content g p c) ih

theorem update (g : Setting) (p : State) (u : Update) : R p (Projection.update g p u) := by
  cases hheard : g.cancellable && p.cancelled with
  | true =>
    rw [update_of_cancelled u hheard]
    exact law.failed p p.supply.entropy _
  | false =>
    have hclosed : R p (closedFor p u) := by
      unfold closedFor
      split
      · exact law.close p
      · exact law.quiet p
    rw [update_of_heard u hheard]
    exact law.andThen hclosed fun q =>
      law.of_start (law.contents g _ u.contents) rfl rfl (.inl rfl)

/-- A law that the parts of a step keep holds of every step. -/
theorem step (g : Setting) (p : State) (s : RunStep) : R p (Projection.step g p s) := by
  cases s with
  | update u => exact law.update g p u
  | fail f =>
    exact law.of_start (law.failed { p with source := .over } p.supply.entropy f.leavingStream)
      rfl rfl (.inl rfl)
  | cancel => exact law.of_start (law.quiet _) rfl rfl (.inl rfl)
  | incomplete reason => exact law.of_start (law.quiet _) rfl rfl (.inl rfl)

end Stretch.TellingLaw

/-- A law that is kept wherever something is told, whatever it is, and whoever draws for it. Of the
state that a part begins with it reads only the output and the phase. -/
structure Stretch.Law (R : State → Stretch → Prop) : Prop where
  quiet (p : State) : R p (.quiet p)
  failed (p : State) (f : Failure) : R p (.failed p f)
  emitBodies (p : State) (b : ItemBuilder) (bodies : List Event.Body) :
    R p (Projection.emitBodies p b bodies)
  close (p : State) : R p (Projection.close p)
  andThen {p : State} {s : Stretch} {next : State → Stretch} :
    R p s → (∀ q, R q (next q)) → R p (s.andThen next)
  /-- An item is begun in a state that is streaming, whatever it was before. -/
  of_start {p q : State} {s : Stretch} :
    R q s → q.output = p.output → q.phase = p.phase ∨ q.phase = .streaming → R p s

namespace Stretch.Law
variable {R : State → Stretch → Prop} (law : Stretch.Law R)
include law

theorem tell (p : State) (b : ItemBuilder) (c : Content) : R p (Projection.tell p b c) := by
  unfold Projection.tell
  split
  · exact law.failed p _
  · split
    · exact law.of_start (law.emitBodies _ _ _) rfl (.inl rfl)
    · exact law.of_start (law.failed _ _) rfl (.inl rfl)

theorem telling : Stretch.TellingLaw R where
  quiet := law.quiet
  failed _ _ _ := law.of_start (law.failed _ _) rfl (.inl rfl)
  tell p b c _ := law.tell p b c
  close := law.close
  andThen := law.andThen
  of_start h houtput _ hphase := law.of_start h houtput hphase

theorem step (g : Setting) (p : State) (s : RunStep) : R p (Projection.step g p s) :=
  law.telling.step g p s

end Stretch.Law

/-! ### The envelope -/

/-- The state of a projection that nothing has been asked of yet but, maybe, to stop or to
cut the answer short. -/
def State.fresh (supply : Supply) (reason : Option Value) (cancelled : Bool) : State :=
  { State.initial supply with reason, cancelled }

theorem fresh_resting (supply : Supply) (reason : Option Value) (cancelled : Bool) :
    (State.fresh supply reason cancelled).account.Resting := by
  refine .inl fun b hb => ?_
  cases hb

/-- The response as an account and the source of its identifiers have it. -/
def Account.snapshot (a : Account) (g : Setting) (ids : IdSource) (status : ResponseStatus) :
    Response :=
  Response.build g.request ids status a.output a.usage g.createdAt

/-- The last event of a run that ends well, by the word that cuts the answer short. -/
inductive Verdict (g : Setting) (ids : IdSource) (a : Account) :
    Option Value → Envelope → Response → Prop where
  | completed : Verdict g ids a none .completed (a.snapshot g ids .completed)
  | incomplete {v : Value} {details : IncompleteDetails}
      (h : Response.readIncomplete (.object [("reason", v)]) = .ok details) :
      Verdict g ids a (some v) .incomplete
        { a.snapshot g ids .incomplete with incompleteDetails := some details }

theorem Verdict.kind_eq {g : Setting} {ids : IdSource} {a : Account} {reason : Option Value}
    {kind : Envelope} {last : Response} (h : Verdict g ids a reason kind last) :
    kind = .completed ∨ kind = .incomplete := by
  cases h with
  | completed => exact .inl rfl
  | incomplete => exact .inr rfl

theorem Verdict.output_eq {g : Setting} {ids : IdSource} {a : Account} {reason : Option Value}
    {kind : Envelope} {last : Response} (h : Verdict g ids a reason kind last) :
    last.output = a.output := by
  cases h <;> rfl

theorem opening_tells (g : Setting) (p : State) :
    (opening g p).failure = none ∧
      (opening g p).bodies =
        [.envelope .created (p.snapshot g .inProgress),
          .envelope .inProgress (p.snapshot g .inProgress)] ∧
      (opening g p).state.account = p.account ∧
      (opening g p).state.previous = p.previous ∧
      (opening g p).state.reason = p.reason ∧ (opening g p).state.cancelled = p.cancelled :=
  ⟨rfl, rfl, rfl, rfl, rfl, rfl⟩

theorem terminal_tells {g : Setting} {p : State} (h : (terminal g p).failure = none) :
    ∃ kind last, Verdict g p.supply.ids p.account p.reason kind last ∧
      (terminal g p).bodies = [.envelope kind last] ∧
      (terminal g p).state.account = p.account := by
  unfold terminal at h ⊢
  cases hr : p.reason with
  | none => exact ⟨_, _, .completed, rfl, rfl⟩
  | some v =>
    simp only [hr, Option.map_some] at h ⊢
    cases hd : Response.readIncomplete (.object [("reason", v)]) with
    | ok details => exact ⟨_, _, .incomplete hd, rfl, rfl⟩
    | faulty faults =>
      rw [hd] at h
      cases h

/-- A verdict that cannot be made tells nothing. -/
theorem terminal_fails {g : Setting} {p : State} (h : (terminal g p).failure ≠ none) :
    (terminal g p).bodies = [] := by
  revert h
  unfold terminal
  split
  · exact fun h => absurd rfl h
  · exact fun _ => rfl
  · exact fun h => absurd rfl h

theorem readIncomplete_text (s : String) :
    Response.readIncomplete (.object [("reason", .text s)]) = .ok ⟨some s, []⟩ := by
  have hkey : Text.isEncodable "reason".toList = true := by decide
  simp only [Response.readIncomplete, Schema.model, Schema.keeping, List.all_cons, List.all_nil,
    hkey]
  rfl

/-- Where an answer is not cut short, or for a reason that is a text, there is a verdict. -/
theorem terminal_ends (g : Setting) {p : State} {reason : Option String}
    (h : p.reason = reason.map .text) : (terminal g p).failure = none := by
  unfold terminal
  rw [h]
  cases reason with
  | none => rfl
  | some s =>
    simp only [Option.map_some, readIncomplete_text]
    rfl

/-- The verdict changes nothing but what it is numbered with. -/
theorem terminal_state (g : Setting) (p : State) :
    ∃ supply, (terminal g p).state = { p with supply } := by
  unfold terminal
  split
  · exact ⟨_, rfl⟩
  · exact ⟨p.supply, rfl⟩
  · exact ⟨_, rfl⟩

/-! ### All acts -/

inductive Act where
  | opening
  | step (s : RunStep)
  | closing
  | verdict

def act (g : Setting) (p : State) : Act → Stretch
  | .opening => opening g p
  | .step s => step g p s
  | .closing => close { p with phase := .draining, source := .over }
  | .verdict => (terminal g p).andThen fun q => .quiet { q with phase := .done }

/-- The acts of a projection over a source. -/
def acts (source : List RunStep) : List Act :=
  .opening :: source.map .step ++ [.closing, .verdict]

/-- The word that an act is, if it is one. -/
def Act.word? : Act → Option Word
  | .step s => s.word?
  | _ => none

theorem act_draws (g : Setting) (p : State) (a : Act) : Stretch.Draws p.supply (act g p a) := by
  cases a with
  | opening => exact opening_draws g p
  | step s => exact step_draws g p s
  | closing => exact (close_telling { p with phase := .draining, source := .over }).toDraws
  | verdict => exact (terminal_draws g p).andThen fun q => .quiet { q with phase := .done }

end Projection
end AgentGateway
