import AgentGateway.Projection.Start
import AgentGateway.Proofs.Projection.Stretch

/-! The numbers of a projection's events.

All events of a projection draw their numbers from one counter: most of them as they
are handed out, the three that close a text item at once. `numbers_consecutive` says that
a consumer sees none of this. Whatever the source does and wherever the consumer stops,
the events that it is handed count up by ones from where the counter stood.

The invariant is `Stretch.Draws`: the events of a stretch are numbered from the supply
it began with, and it leaves the supply's counter behind its last event. -/
namespace AgentGateway.Projection

/-- Events whose numbers count up by ones from `n`. -/
def Consecutive (n : Int) (events : List Event) : Prop :=
  ∀ (k : Nat) (e : Event), events[k]? = some e → e.number = n + k

namespace Consecutive

theorem nil (n : Int) : Consecutive n [] := by
  intro k e h
  simp at h

theorem cons {n : Int} {e : Event} {events : List Event} (h : e.number = n)
    (ht : Consecutive (n + 1) events) : Consecutive n (e :: events) := by
  intro k e' hk
  cases k with
  | zero =>
    have he : e = e' := by simpa using hk
    subst he
    omega
  | succ k =>
    have := ht k e' (by simpa using hk)
    omega

theorem append {n : Int} {a b : List Event} (ha : Consecutive n a)
    (hb : Consecutive (n + a.length) b) : Consecutive n (a ++ b) := by
  intro k e hk
  rw [List.getElem?_append] at hk
  split at hk
  · exact ha k e hk
  · have := hb (k - a.length) e hk
    omega

theorem take {n : Int} {events : List Event} (h : Consecutive n events) (m : Nat) :
    Consecutive n (events.take m) := by
  intro k e hk
  rw [List.getElem?_take] at hk
  split at hk
  · exact h k e hk
  · cases hk

end Consecutive

/-! ### Drawing on a supply -/

/-- A stretch whose events are numbered from the supply it began with. -/
structure Stretch.Draws (supply : Supply) (s : Stretch) : Prop where
  numbers : Consecutive supply.number s.events
  counter : s.state.supply.number = supply.number + s.events.length
  ids : s.state.supply.ids = supply.ids

namespace Stretch.Draws

theorem quiet (p : State) : Draws p.supply (.quiet p) :=
  ⟨Consecutive.nil _, by simp, rfl⟩

theorem failed (p : State) (f : Failure) : Draws p.supply (.failed p f) :=
  ⟨Consecutive.nil _, by simp [Stretch.failed], rfl⟩

theorem of_supply {supply supply' : Supply} {s : Stretch} (h : Draws supply' s)
    (hnumber : supply'.number = supply.number) (hids : supply'.ids = supply.ids) :
    Draws supply s := by
  obtain ⟨hnumbers, hcounter, hsource⟩ := h
  rw [hnumber] at hnumbers hcounter
  exact ⟨hnumbers, hcounter, hsource.trans hids⟩

theorem andThen {supply : Supply} {s : Stretch} {next : State → Stretch} (h : Draws supply s)
    (hnext : ∀ p, Draws p.supply (next p)) : Draws supply (s.andThen next) := by
  cases hf : s.failure with
  | some f =>
    rw [andThen_of_fails next hf]
    exact h
  | none =>
    rw [andThen_of_ends next hf]
    obtain ⟨hnumbers, hcounter, hids⟩ := hnext s.state
    rw [h.counter] at hnumbers hcounter
    refine ⟨?_, ?_, hids.trans h.ids⟩
    · show Consecutive supply.number ((s.emitted ++ (next s.state).emitted).map Emission.event)
      rw [List.map_append]
      exact h.numbers.append hnumbers
    · show (next s.state).state.supply.number = _
      rw [hcounter]
      simp only [length_events, List.length_append]
      omega

end Stretch.Draws

/-- A stretch of telling. Besides what it tells it leaves a state alone: what came before,
what was asked from outside and how far the source has been used. -/
structure Stretch.Telling (p : State) (s : Stretch) : Prop extends Stretch.Draws p.supply s where
  previous : s.state.previous = p.previous
  reason : s.state.reason = p.reason
  cancelled : s.state.cancelled = p.cancelled
  source : s.state.source = p.source

namespace Stretch.Telling

theorem quiet (p : State) : Telling p (.quiet p) := ⟨.quiet p, rfl, rfl, rfl, rfl⟩

theorem failed (p : State) (f : Failure) : Telling p (.failed p f) :=
  ⟨.failed p f, rfl, rfl, rfl, rfl⟩

theorem andThen {p : State} {s : Stretch} {next : State → Stretch} (h : Telling p s)
    (hnext : ∀ q, Telling q (next q)) : Telling p (s.andThen next) := by
  cases hf : s.failure with
  | some f =>
    rw [andThen_of_fails next hf]
    exact h
  | none =>
    have hn := hnext s.state
    have hstate := state_andThen next hf
    refine ⟨h.toDraws.andThen fun q => (hnext q).toDraws, ?_, ?_, ?_, ?_⟩
    · rw [hstate]
      exact hn.previous.trans h.previous
    · rw [hstate]
      exact hn.reason.trans h.reason
    · rw [hstate]
      exact hn.cancelled.trans h.cancelled
    · rw [hstate]
      exact hn.source.trans h.source

end Stretch.Telling

open Stretch (Draws Telling)

theorem emitAll_number (s : Supply) (bodies : List Event.Body) :
    Consecutive s.number (s.emitAll bodies).1 ∧
      (s.emitAll bodies).2.number = s.number + (s.emitAll bodies).1.length ∧
      (s.emitAll bodies).2.ids = s.ids := by
  induction bodies generalizing s with
  | nil => exact ⟨Consecutive.nil _, by simp [Supply.emitAll], rfl⟩
  | cons body rest ih =>
    obtain ⟨hnumbers, hcounter, hids⟩ := ih (s.emit body).2
    refine ⟨Consecutive.cons rfl hnumbers, ?_, hids⟩
    show ((s.emit body).2.emitAll rest).2.number = _
    rw [hcounter]
    simp only [Supply.emit, Supply.emitAll, List.length_cons]
    omega

/-- Drawing an identifier uses up no number. -/
theorem unfold_number (b : ItemBuilder) (s : Supply) (c : Content) :
    (b.unfold s c).2.number = s.number ∧ (b.unfold s c).2.ids = s.ids := by
  unfold ItemBuilder.unfold
  cases b.itemId with
  | some id => exact ⟨rfl, rfl⟩
  | none => exact ⟨rfl, rfl⟩

theorem emitBodies_telling (p : State) (b : ItemBuilder) (bodies : List Event.Body) :
    Telling p (emitBodies p b bodies) := by
  induction bodies generalizing p b with
  | nil => exact ⟨.quiet { p with builder := some b }, rfl, rfl, rfl, rfl⟩
  | cons body rest ih =>
    have hrest := ih (emitBody p b body).state (b.after body)
    refine ⟨⟨Consecutive.cons rfl hrest.numbers, ?_, hrest.ids⟩, hrest.previous, hrest.reason,
      hrest.cancelled, hrest.source⟩
    show (emitBodies (emitBody p b body).state (b.after body) rest).state.supply.number = _
    rw [hrest.counter]
    simp only [emitBody, Supply.emit, emitBodies, Stretch.events, List.length_map, List.length_cons]
    omega

/-- The events of a closing are numbered at once, before the first is handed out. -/
theorem close_telling (p : State) : Telling p (close p) := by
  unfold close
  cases p.builder with
  | none => exact .quiet p
  | some b =>
    obtain ⟨hnumbers, hcounter, hids⟩ := emitAll_number p.supply b.completion
    refine ⟨⟨?_, ?_, hids⟩, rfl, rfl, rfl, rfl⟩
    · simpa only [Stretch.events, List.map_map, Function.comp_def, List.map_id'] using hnumbers
    · simpa only [Stretch.events, List.map_map, Function.comp_def, List.map_id'] using hcounter

/-! Making events draws no characters. -/

theorem emitAll_entropy (s : Supply) (told : List Event.Body) :
    (s.emitAll told).2.entropy = s.entropy := by
  induction told generalizing s with
  | nil => rfl
  | cons body rest ih => exact ih (s.emit body).2

theorem close_entropy (p : State) : (close p).state.supply.entropy = p.supply.entropy := by
  unfold close
  cases p.builder with
  | none => rfl
  | some b => exact emitAll_entropy p.supply b.completion

theorem emitBodies_entropy (p : State) (b : ItemBuilder) (told : List Event.Body) :
    (emitBodies p b told).state.supply.entropy = p.supply.entropy := by
  induction told generalizing p b with
  | nil => rfl
  | cons body rest ih => exact ih (emitBody p b body).state (b.after body)

theorem tell_telling (p : State) (b : ItemBuilder) (c : Content) : Telling p (tell p b c) := by
  unfold tell
  split
  · exact .failed p _
  · rename_i b' _ _
    obtain ⟨hnumber, hids⟩ := unfold_number b' p.supply c
    split
    · rename_i b'' bodies supply hu
      rw [hu] at hnumber hids
      have h := emitBodies_telling { p with supply } b'' bodies
      exact ⟨h.toDraws.of_supply hnumber hids, h.previous, h.reason, h.cancelled, h.source⟩
    · rename_i f supply hu
      rw [hu] at hnumber hids
      exact ⟨(Draws.failed { p with supply, builder := some b' } f).of_supply hnumber hids,
        rfl, rfl, rfl, rfl⟩

/-- A new builder tells its content, or ends the run with nothing but characters drawn. -/
theorem tellFirst_cases (p : State) (b : ItemBuilder) (c : Content) :
    (c.limit? = none ∧ tellFirst p b c = tell p b c) ∨
      c.limit? ≠ none ∧ ∃ entropy f, tellFirst p b c = .failed { p with
        builder := some { b with completed := true }
        supply := { p.supply with entropy } } f := by
  unfold tellFirst
  cases c.limit? with
  | none => exact .inl ⟨rfl, rfl⟩
  | some l =>
    refine .inr ⟨Option.some_ne_none l, ?_⟩
    dsimp only
    split
    · exact ⟨p.supply.entropy, _, rfl⟩
    · rw [Supply.draw_apply]
      cases ((ItemBuilder.drawId b.kind p.supply.ids).run p.supply.entropy).1 <;>
        exact ⟨_, _, rfl⟩

theorem tellFirst_telling (p : State) (b : ItemBuilder) (c : Content) :
    Telling p (tellFirst p b c) := by
  obtain ⟨-, htold⟩ | ⟨-, entropy, f, hfails⟩ := tellFirst_cases p b c
  · rw [htold]
    exact tell_telling p b c
  · rw [hfails]
    exact ⟨(Draws.failed _ f).of_supply rfl rfl, rfl, rfl, rfl, rfl⟩

theorem content_telling (g : Setting) (p : State) (c : Content) : Telling p (content g p c) := by
  unfold content
  split
  · exact ⟨.quiet { p with usage := Usage.combine p.usage _ }, rfl, rfl, rfl, rfl⟩
  · split
    · exact tell_telling p _ c
    · refine (close_telling p).andThen fun q => ?_
      cases ho : openBuilder g q c with
      | none => exact .quiet q
      | some opened =>
        obtain ⟨k, _, rfl⟩ := Option.map_eq_some_iff.mp ho
        have h := tellFirst_telling { q with
          builder := some (ItemBuilder.new k q.nextIndex)
          nextIndex := q.nextIndex + 1
          phase := .streaming } (ItemBuilder.new k q.nextIndex) c
        exact ⟨h.toDraws, h.previous, h.reason, h.cancelled, h.source⟩

theorem contents_telling (g : Setting) (p : State) (cs : List Content) :
    Telling p (contents g p cs) := by
  induction cs generalizing p with
  | nil => exact .quiet p
  | cons c rest ih => exact (content_telling g p c).andThen ih

theorem update_draws (g : Setting) (p : State) (u : Update) : Draws p.supply (update g p u) := by
  unfold update
  split
  · exact .failed p .cancelled
  · have hclosed : Draws p.supply
        (if Update.isNewMessage (some u) p.previous then close p else .quiet p) := by
      split
      · exact (close_telling p).toDraws
      · exact .quiet p
    exact hclosed.andThen fun q =>
      (contents_telling g { q with previous := some (u.carry q.previous) } u.contents).toDraws

theorem step_draws (g : Setting) (p : State) (s : RunStep) : Draws p.supply (step g p s) := by
  cases s with
  | update u => exact update_draws g p u
  | fail f => exact .failed { p with source := .over } f.leavingStream
  | cancel => exact .quiet { p with cancelled := true }
  | incomplete reason => exact .quiet { p with reason }

theorem steps_draws (g : Setting) (p : State) (source : List RunStep) :
    Draws p.supply (steps g p source) := by
  induction source generalizing p with
  | nil => exact .quiet p
  | cons s rest ih => exact (step_draws g p s).andThen ih

/-! ### The whole run -/

theorem envelope_draws (kind : Envelope) (snapshot : State → Response) (p : State) :
    Draws p.supply (envelope kind snapshot p) :=
  ⟨Consecutive.cons rfl (Consecutive.nil _), rfl, rfl⟩

theorem terminal_draws (g : Setting) (p : State) : Draws p.supply (terminal g p) := by
  unfold terminal
  split
  · exact envelope_draws _ _ p
  · exact .failed p _
  · exact envelope_draws _ _ p

theorem opening_draws (g : Setting) (p : State) : Draws p.supply (opening g p) :=
  (envelope_draws .created _ { p with phase := .opened }).andThen fun q =>
    (envelope_draws .inProgress _ q).andThen fun r => .quiet { r with source := .started }

theorem ending_draws (g : Setting) (p : State) : Draws p.supply (ending g p) :=
  (close_telling { p with phase := .draining, source := .over }).toDraws.andThen fun q =>
    (terminal_draws g q).andThen fun r => .quiet { r with phase := .done }

/-- From any state and over any source, the events of a projection count up from where the
state's counter stands. -/
theorem project_draws (g : Setting) (p : State) (source : List RunStep) :
    Draws p.supply (project g p source) := by
  unfold project
  split
  · exact ((opening_draws g p).andThen fun q => steps_draws g q source).andThen (ending_draws g)
  · exact .failed p _

theorem Consecutive.take_stretch {n : Int} {s : Stretch} (h : Consecutive n s.events) (m : Nat) :
    Consecutive n (s.take m).events := by
  unfold Stretch.take
  split
  · show Consecutive n ((s.emitted.take (m - 1 + 1)).map Emission.event)
    rw [List.map_take]
    exact h.take _
  · exact h

/-- Events that count up from zero count up from `n` once a sequence that starts there has
numbered them. -/
theorem renumber_consecutive (s : Stretch) (n : Int) (h : Consecutive 0 s.events) :
    Consecutive n (s.renumber ⟨.int n⟩).events := by
  intro k e hk
  simp only [Stretch.renumber, Stretch.events, List.map_map, List.getElem?_map,
    Option.map_eq_some_iff, Function.comp_apply] at hk
  obtain ⟨emission, hemission, rfl⟩ := hk
  have hnumber : emission.event.number = 0 + k := by
    apply h k
    simp only [Stretch.events, List.getElem?_map, hemission, Option.map_some]
  show (Sequence.ahead ⟨.int n⟩ emission.event.number.toNat).whole = n + k
  rw [Sequence.ahead_int, Sequence.whole_int, hnumber]
  omega

theorem start_consecutive (request : Request) (kinds : List BuilderKind) (cancellable : Bool)
    (createdAt : Checked Int) (n : Int) (p : State) (source : List RunStep)
    (h : p.supply.number = 0) :
    Consecutive n (start request kinds cancellable createdAt ⟨.int n⟩ p source).events := by
  unfold start
  split
  · exact Consecutive.nil n
  · split
    · exact Consecutive.nil n
    · apply renumber_consecutive
      rw [← h]
      exact (project_draws _ p source).numbers

/-- **The `k`-th event that a consumer is handed has the number `k` counted from where the
counter stood**, from any state, over any source (updates, failures, requests to stop, words
that cut the answer short), handed out to the end or up to any event. It is the same where
the counter is a sequence that starts at a whole number. -/
theorem numbers_consecutive (g : Setting) (p : State) (createdAt : Checked Int)
    (source : List RunStep) (taken : Nat) :
    let n := p.supply.number
    let run := project g p source
    let started := start g.request g.kinds g.cancellable createdAt ⟨.int n⟩
      { p with supply := { p.supply with number := 0 } } source
    (Consecutive n run.events ∧ Consecutive n (run.take taken).events) ∧
      Consecutive n started.events ∧ Consecutive n (started.take taken).events := by
  intro n run started
  have hrun : Consecutive n run.events := (project_draws g p source).numbers
  have hstarted : Consecutive n started.events :=
    start_consecutive g.request g.kinds g.cancellable createdAt n _ source rfl
  exact ⟨⟨hrun, hrun.take_stretch taken⟩, hstarted, hstarted.take_stretch taken⟩

end AgentGateway.Projection
