import AgentGateway.Proofs.Projection.Exchange

/-! The release of a source.

A projection that has asked its source for an update lets go of it before it is over, however
it is left: the source is closed after its last answer, and not asked again. A consumer who
leaves while the projection opens leaves a source that has not been asked at all.

How far a source has been used stands in the margin of a state. Telling takes no notice of it
(`update_uses`, `close_uses`), so between two answers it stays as the last one has left it
(`reply_uses`), and what is read off the state that a projection is left in agrees with the
contacts that there were (`source_released`). -/
namespace AgentGateway.Projection

/-! ### The use of a source -/

def Margin.sourced (m : Margin) (u : SourceUse) : Margin := { m with source := u }

def State.sourced (p : State) (u : SourceUse) : State := { p with source := u }

/-- In all states of a stretch its source has been used so far. -/
def Stretch.Uses (s : Stretch) (u : SourceUse) : Prop := ∀ q ∈ s.states, q.source = u

namespace Stretch

theorem Uses.attended {s : Stretch} {u : SourceUse} (h : s.Uses u) (voice : Voice) :
    (s.attended voice).Uses u := by
  refine List.forall_mem_map (P := (· = u)) |>.mp ?_
  rw [map_states_attended s voice fun _ _ => rfl]
  exact List.forall_mem_map.mpr h

/-- What takes no notice of its source uses it no further. -/
theorem uses_of_noted {f : State → Stretch}
    (h : ∀ p u, f (p.sourced u) = (f p).noted (·.sourced u)) (p : State) :
    (f p).Uses p.source := by
  intro q hq
  rw [show f p = (f p).noted (·.sourced p.source) from h p p.source] at hq
  simp only [states, noted, List.map_map, List.mem_append, List.mem_map,
    List.mem_singleton] at hq
  obtain ⟨e, -, rfl⟩ | rfl := hq <;> rfl

end Stretch

theorem close_uses (p : State) : (close p).Uses p.source :=
  Stretch.uses_of_noted (fun p u => close_noted p (·.sourced u)) p

theorem update_uses (g : Setting) (p : State) (w : Update) : (update g p w).Uses p.source := by
  refine Stretch.uses_of_noted (f := fun p => update g p w) (fun p u => ?_) p
  cases hheard : g.cancellable && p.cancelled with
  | true =>
    rw [update_of_cancelled w hheard, update_of_cancelled (p := p.sourced u) w hheard]
    rfl
  | false =>
    have hclosed : closedFor (p.sourced u) w = (closedFor p w).noted (·.sourced u) := by
      unfold closedFor
      rw [show (p.sourced u).previous = p.previous from rfl]
      split
      · exact close_noted p (·.sourced u)
      · rfl
    rw [update_of_heard w hheard, update_of_heard (p := p.sourced u) w hheard, hclosed]
    exact Stretch.noted_andThen _ fun q =>
      contents_noted { q with previous := _ } (·.sourced u) (fun _ _ => rfl) g w.contents

theorem verdict_uses (g : Setting) (p : State) : (act g p .verdict).Uses p.source := by
  refine Stretch.uses_of_noted (f := fun p => act g p .verdict) (fun p u => ?_) p
  have hterminal : terminal g (p.sourced u) = (terminal g p).noted (·.sourced u) := by
    unfold terminal
    rw [show (p.sourced u).reason = p.reason from rfl]
    split <;> rfl
  simp only [act, hterminal]
  exact Stretch.noted_andThen _ fun q => rfl

/-- How far a source has been used once it has answered. -/
def Reply.use : Reply → SourceUse
  | update _ => .started
  | failed _ | ended => .over

theorem reply_uses (g : Setting) {p : State} (hp : p.source = .started) (r : Reply) :
    (act g p r.act).Uses r.use := by
  cases r with
  | update w =>
    show (update g p w).Uses .started
    exact hp.symm ▸ update_uses g p w
  | failed f => exact List.forall_mem_singleton.mpr rfl
  | ended => exact close_uses { p with phase := .draining, source := .over }

/-! ### Where a consumer leaves -/

theorem hand_state_mem (d : Option Nat) (s : Stretch) : (hand d s).state ∈ s.states := by
  have hlast : s.state ∈ s.states := List.mem_append_right _ (List.mem_singleton_self _)
  cases d with
  | none => exact hlast
  | some n =>
    by_cases hn : n - 1 < s.emitted.length
    · rw [hand_of_lt hn]
      exact List.mem_append_left _ (List.mem_map_of_mem (List.getElem_mem hn))
    · rw [hand_of_le (Nat.le_of_not_lt hn)]
      exact hlast

theorem Stretch.Uses.hand {s : Stretch} {u : SourceUse} (h : s.Uses u) (d : Option Nat) :
    (hand d s).state.source = u :=
  h _ (hand_state_mem d s)

section
variable (g : Setting) (voice : Voice) (p : State)

/-- A consumer who takes two events at most leaves while a projection opens. -/
theorem hand_opening_left {n : Nat} (hn : n ≤ 2) :
    (hand (some n) ((act g p .opening).attended voice)).exit = .left ∧
      (hand (some n) ((act g p .opening).attended voice)).state.source = p.source := by
  obtain rfl | rfl | rfl : n = 0 ∨ n = 1 ∨ n = 2 := by omega
  all_goals exact ⟨rfl, rfl⟩

/-- With any other consumer the source is asked next. -/
theorem hand_opening_through {d : Option Nat} (hd : ∀ n ≤ 2, d ≠ some n) :
    (hand d ((act g p .opening).attended voice)).exit = .through ∧
      (hand d ((act g p .opening).attended voice)).state.source = .started := by
  cases d with
  | none => exact ⟨rfl, rfl⟩
  | some n =>
    have hlong : ((act g p .opening).attended voice).emitted.length ≤ n - 1 := by
      show 2 ≤ n - 1
      exact Nat.le_of_not_lt fun hshort => hd n (by omega) rfl
    rw [hand_of_le hlong]
    exact ⟨rfl, rfl⟩

end

/-! ### Contacts with a source -/

/-- The contacts with a source that brings some updates, and then a last answer. -/
def asks (us : List Update) (last : Reply) : List Contact :=
  us.map (fun u => .asked (.update u)) ++ [.asked last]

/-- The contacts of a projection that has let go of its source. -/
inductive Released : List Contact → Prop
  /-- The source has not been asked at all. -/
  | untouched : Released []
  /-- It has been closed after its last answer. -/
  | closed (us : List Update) (last : Reply) : Released (asks us last ++ [.closed])

namespace Exchange
variable {σ : Type}

/-- Where something comes next that is over, either it is never come to, or what came of both
stands one after the other. -/
theorem andThen_cases {e e' : Exchange σ}
    {next : State → Option Nat → σ → Option (Exchange σ)} (h : e.andThen next = some e') :
    e.exit ≠ .through ∧ e' = e ∨
      e.exit = .through ∧ ∃ rest, next e.state e.demand e.source = some rest ∧
        e'.contacts = e.contacts ++ rest.contacts ∧ e'.state = rest.state := by
  unfold andThen at h
  cases hexit : e.exit with
  | through =>
    rw [hexit] at h
    obtain ⟨rest, hrest, rfl⟩ := Option.map_eq_some_iff.mp h
    exact .inr ⟨rfl, rest, hrest, rfl, rfl⟩
  | raised | left =>
    rw [hexit] at h
    exact .inl ⟨nofun, (Option.some.inj h).symm⟩

end Exchange

section
variable (g : Setting) (voice : Voice) {σ : Type} {src : Source σ}

/-- A source is asked as long as it brings updates, and at most once more. -/
theorem converse_contacts {fuel : Nat} {p : State} (hp : p.source = .started) {d : Option Nat}
    {x : σ} {e : Exchange σ} (h : converse g voice src fuel p d x = some e) :
    ∃ us last, e.contacts = asks us last ∧ e.state.source = last.use := by
  induction fuel generalizing p d x e with
  | zero => cases h
  | succ fuel ih =>
    rw [converse] at h
    generalize src.ask x = answer at h
    obtain ⟨words, reply, x⟩ := answer
    have htold : (hand d ((act g (p.hear words) reply.act).attended voice)).state.source =
        reply.use := ((reply_uses g (p := p.hear words) hp reply).attended voice).hand d
    cases reply with
    | update u =>
      obtain ⟨-, rfl⟩ | ⟨-, rest, hrest, hcontacts, hstate⟩ := Exchange.andThen_cases h
      · exact ⟨[], .update u, rfl, htold⟩
      · obtain ⟨us, last, hmore, huse⟩ := ih htold hrest
        refine ⟨u :: us, last, ?_, hstate ▸ huse⟩
        rw [hcontacts, hmore]
        rfl
    | failed f =>
      obtain rfl := Option.some.inj h
      exact ⟨[], .failed f, rfl, htold⟩
    | ended =>
      obtain rfl := Option.some.inj h
      exact ⟨[], .ended, rfl, htold⟩

end

/-! ### The end of an exchange -/

theorem Exchange.release_closes {σ : Type} {src : Source σ} (hclose : src.close?.isSome = true)
    (e : Exchange σ) :
    (e.release src).contacts = e.contacts ++ [.closed] ∧ (e.release src).state = e.state := by
  obtain ⟨close, hclose⟩ := Option.isSome_iff_exists.mp hclose
  unfold release
  rw [hclose]
  exact ⟨rfl, rfl⟩

section
variable (g : Setting) (voice : Voice) {σ : Type} {src : Source σ} {fuel : Nat} {p : State}
  {d : Option Nat} {x : σ} {e : Exchange σ}

/-- A projection that has been used, or is left while it opens, does not come to its source. -/
theorem exchange_untouched (hstart : p.phase ≠ .idle ∨ ∃ n ≤ 2, d = some n)
    (h : exchange g voice src fuel p d x = some e) :
    e.contacts = [] ∧ e.source = x ∧ e.state.source = p.source := by
  unfold exchange at h
  split at h
  · obtain rfl := Option.some.inj h
    exact ⟨rfl, rfl, rfl⟩
  split at h
  next hidle =>
    obtain ⟨n, hn, rfl⟩ := hstart.resolve_left (not_not_intro hidle)
    obtain ⟨hleft, huse⟩ := hand_opening_left g voice p hn
    obtain ⟨-, rfl⟩ | ⟨hthrough, -⟩ := Exchange.andThen_cases h
    · exact ⟨rfl, rfl, huse⟩
    · exact absurd (hleft.symm.trans hthrough) nofun
  next hused =>
    obtain rfl := Option.some.inj h
    exact ⟨rfl, rfl, congrArg State.source (List.mem_singleton.mp (hand_state_mem d _))⟩

/-- A projection that comes to its source has closed it when it is over. -/
theorem exchange_closes (hclose : src.close?.isSome = true) (hidle : p.phase = .idle)
    (hd : ∀ n ≤ 2, d ≠ some n) (h : exchange g voice src fuel p d x = some e) :
    ∃ us last, e.contacts = asks us last ++ [.closed] ∧ e.state.source = last.use := by
  obtain ⟨hopens, hstarted⟩ := hand_opening_through g voice p hd
  unfold exchange at h
  rw [if_neg (hd 0 (Nat.zero_le 2)), if_pos hidle] at h
  obtain ⟨hleft, -⟩ | ⟨-, rest, hrest, hcontacts, hstate⟩ := Exchange.andThen_cases h
  · exact absurd hopens hleft
  obtain ⟨released, hreleased, hjudged⟩ := Option.bind_eq_some_iff.mp hrest
  obtain ⟨asked, hasked, rfl⟩ := Option.map_eq_some_iff.mp hreleased
  obtain ⟨us, last, hasks, huse⟩ := converse_contacts g voice hstarted hasked
  obtain ⟨hclosed, hkept⟩ := Exchange.release_closes hclose asked
  refine ⟨us, last, ?_, ?_⟩
  · obtain ⟨-, rfl⟩ | ⟨-, judged, hjudged, hmore, -⟩ := Exchange.andThen_cases hjudged
    · rw [hcontacts, hclosed, hasks]
      rfl
    · obtain rfl := Option.some.inj hjudged
      rw [hcontacts, hmore, hclosed, hasks]
      exact List.append_nil _
  · rw [hstate]
    obtain ⟨-, rfl⟩ | ⟨-, judged, hjudged, -, hlast⟩ := Exchange.andThen_cases hjudged
    · rw [hkept, huse]
    · obtain rfl := Option.some.inj hjudged
      rw [hlast, ← huse, ← hkept]
      exact ((verdict_uses g _).attended voice).hand _

end

/-- **A source that can be closed** is let go of by every projection that is over, however it
came to that: by an answer, a failure, a request to stop, or a consumer who left. It has been
closed after its last answer and was not asked again; where the projection had been used
before, or the consumer leaves while it opens, the source has not been asked at all. Whether
it has been let go of can be read off the state that is left. Over a list of steps the
consumer is handed what the projection of these steps tells. -/
theorem source_released (g : Setting) (voice : Voice) (p : State) (d : Option Nat) :
    (∀ (σ : Type) (src : Source σ) (x : σ) (fuel : Nat) (e : Exchange σ),
      src.close?.isSome = true → exchange g voice src fuel p d x = some e →
      Released e.contacts ∧
        (e.contacts = [] ↔ p.phase ≠ .idle ∨ ∃ n ≤ 2, d = some n) ∧
        (e.contacts = [] → e.source = x) ∧
        (p.source = .untouched → released e.state true = !e.contacts.isEmpty)) ∧
      (d ≠ some 0 → ∀ source : List RunStep,
        ∃ e, exchange g voice (script true) (source.length + 1) p d source = some e ∧
          e.toHanded = hand d (Attended.project g voice p source)) := by
  refine ⟨fun σ src x fuel e hclose h => ?_, fun hd source =>
    Attended.exchange_script g voice true p hd source (Nat.lt_succ_self _)⟩
  by_cases hstart : p.phase ≠ .idle ∨ ∃ n ≤ 2, d = some n
  · obtain ⟨hcontacts, hsource, huse⟩ := exchange_untouched g voice hstart h
    refine ⟨hcontacts ▸ .untouched, iff_of_true hcontacts hstart, fun _ => hsource, fun hp => ?_⟩
    rw [released, huse, hp, hcontacts]
    rfl
  · have hidle : p.phase = .idle := Decidable.not_not.mp fun hused => hstart (.inl hused)
    obtain ⟨us, last, hcontacts, huse⟩ := exchange_closes g voice hclose hidle
      (fun n hn hd => hstart (.inr ⟨n, hn, hd⟩)) h
    have hsome : e.contacts ≠ [] := by simp [hcontacts]
    refine ⟨hcontacts ▸ .closed us last, iff_of_false hsome hstart, fun h => absurd h hsome,
      fun _ => ?_⟩
    rw [released, huse, List.isEmpty_eq_false_iff.mpr hsome]
    cases last <;> rfl

/-- A consumer leaves between the last two events of a text. -/
theorem left_amid_completion :
    ∃ e, exchange talk .silent (script true) 3 (State.fresh talkSupply none false) (some 8)
        talkSteps = some e ∧ e.exit = .left ∧ Released e.contacts ∧ e.contacts.length = 3 ∧
      released e.state true = true := by
  refine ⟨_, rfl, rfl, ?_⟩
  obtain ⟨hreleased, -, -, huse⟩ :=
    (source_released talk .silent (State.fresh talkSupply none false) (some 8)).1 _ (script true)
      talkSteps 3 _ rfl rfl
  exact ⟨hreleased, rfl, huse rfl⟩

end AgentGateway.Projection
