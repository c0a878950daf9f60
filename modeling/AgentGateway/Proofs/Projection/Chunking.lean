import AgentGateway.Proofs.Projection.Course
import AgentGateway.Proofs.Projection.Likeness

/-! A result does not depend on how an agent cuts its stream into pieces.

`project_cut`: an update cut in two is told event by event as the whole one is, and a text cut
in two is told the same but for the pieces of that text and the numbers. Either way the run
fails or ends as before, with the same verdict, and its updates add up to the same answer.

The heart is `content_cut_text`. A new text item opens empty and then goes on with its text
(`introduce_text`), so the only case to look at is a text that goes on in an open item. -/
namespace AgentGateway

/-- An event without its number. -/
def Event.unnumbered (e : Event) : Event := { e with number := 0 }

/-- Whether an event is more than a piece of a text. -/
def Event.Body.lasting : Event.Body → Bool
  | .textDelta .. => false
  | _ => true

namespace Projection

/-! ### Events by what they tell -/

/-- Events that count up from one number and have nothing unknown are those that tell the same. -/
theorem Consecutive.ext {n : Int} {a b : List Event} (ha : Consecutive n a) (hb : Consecutive n b)
    (hplain : ∀ e ∈ a, e.extra = []) (hplain' : ∀ e ∈ b, e.extra = [])
    (hbodies : a.map Event.body = b.map Event.body) : a = b := by
  refine List.ext_getElem? fun k => ?_
  have hbody : a[k]?.map Event.body = b[k]?.map Event.body := by
    rw [← List.getElem?_map, ← List.getElem?_map, hbodies]
  cases hak : a[k]? with
  | none =>
    rw [hak, Option.map_none] at hbody
    exact (Option.map_eq_none_iff.mp hbody.symm).symm
  | some e =>
    rw [hak, Option.map_some] at hbody
    obtain ⟨e', hbk, hsame⟩ := Option.map_eq_some_iff.mp hbody.symm
    have hnumber := (ha k e hak).trans (hb k e' hbk).symm
    have hextra := (hplain e (List.mem_of_getElem? hak)).trans
      (hplain' e' (List.mem_of_getElem? hbk)).symm
    obtain ⟨number, body, extra⟩ := e
    obtain ⟨number', body', extra'⟩ := e'
    obtain ⟨rfl, rfl, rfl⟩ : number = number' ∧ body = body' ∧ extra = extra' :=
      ⟨hnumber, hsame.symm, hextra⟩
    exact hbk.symm

/-- Events of a stretch that have nothing unknown. -/
def Stretch.Plain (s : Stretch) : Prop := ∀ e ∈ s.events, e.extra = []

theorem Stretch.Plain.andThen {s : Stretch} {next : State → Stretch} (h : s.Plain)
    (hnext : ∀ q, (next q).Plain) : (s.andThen next).Plain := by
  cases hs : s.failure with
  | some f =>
    rw [Stretch.andThen_of_fails next hs]
    exact h
  | none =>
    unfold Stretch.Plain
    rw [Stretch.events_andThen next hs]
    exact List.forall_mem_append.mpr ⟨h, hnext s.state⟩

theorem emitAll_plain (s : Supply) (told : List Event.Body) :
    ∀ e ∈ (s.emitAll told).1, e.extra = [] := by
  induction told generalizing s with
  | nil => simp [Supply.emitAll]
  | cons body rest ih => exact List.forall_mem_cons.mpr ⟨rfl, ih (s.emit body).2⟩

theorem emitBodies_plain (p : State) (b : ItemBuilder) (told : List Event.Body) :
    (emitBodies p b told).Plain := by
  induction told generalizing p b with
  | nil => simp [Stretch.Plain, emitBodies]
  | cons body rest ih =>
    exact List.forall_mem_cons.mpr ⟨rfl, ih (emitBody p b body).state (b.after body)⟩

theorem close_plain (p : State) : (close p).Plain := by
  unfold close
  cases p.builder with
  | none => simp [Stretch.Plain]
  | some b =>
    simpa [Stretch.Plain, Stretch.events, Function.comp_def] using
      emitAll_plain p.supply b.completion

theorem plain_law : Stretch.Law fun _ s => s.Plain where
  quiet _ := by simp [Stretch.Plain]
  failed _ _ := by simp [Stretch.Plain]
  emitBodies := emitBodies_plain
  close := close_plain
  andThen := Stretch.Plain.andThen
  of_start h _ _ := h

theorem project_plain (g : Setting) (supply : Supply) (reason : Option Value) (cancelled : Bool)
    (source : List RunStep) :
    (project g (State.fresh supply reason cancelled) source).Plain := by
  have henvelope (kind : Envelope) (snapshot : State → Response) (p : State) :
      (envelope kind snapshot p).Plain := by simp [Stretch.Plain, envelope, Stretch.events,
        Supply.emit, Event.plain]
  have hquiet (p : State) : (Stretch.quiet p).Plain := plain_law.quiet p
  have hsteps (p : State) : (steps g p source).Plain := by
    induction source generalizing p with
    | nil => exact hquiet p
    | cons s rest ih => exact (plain_law.step g p s).andThen ih
  have hterminal (p : State) : (terminal g p).Plain := by
    unfold terminal
    split
    · exact henvelope _ _ p
    · exact plain_law.failed p _
    · exact henvelope _ _ p
  rw [project_fresh]
  refine Stretch.Plain.andThen ?_ fun p => (hsteps p).andThen fun q =>
    (close_plain _).andThen fun r => (hterminal r).andThen fun _ => hquiet _
  exact (henvelope _ _ _).andThen fun p => (henvelope _ _ p).andThen fun _ => hquiet _

/-! ### A text in two pieces -/

theorem emitBodies_builder (p : State) (builder : Option ItemBuilder) (b : ItemBuilder)
    (told : List Event.Body) :
    emitBodies { p with builder } b told = emitBodies p b told := by
  cases told <;> rfl

theorem emitBodies_append (p : State) (b : ItemBuilder) (told more : List Event.Body) :
    emitBodies p b (told ++ more) =
      (emitBodies p b told).andThen fun q => emitBodies q (told.foldl ItemBuilder.after b) more := by
  induction told generalizing p b with
  | nil => exact (emitBodies_builder p (some b) b more).symm
  | cons body rest ih =>
    have hends := (emitBodies_tells (emitBody p b body).state (b.after body) rest).1
    have hrest := ih (emitBody p b body).state (b.after body)
    rw [Stretch.andThen_of_ends _ hends] at hrest
    rw [Stretch.andThen_of_ends _ (emitBodies_tells p b (body :: rest)).1]
    simp only [List.cons_append, emitBodies, hrest]
    rfl

theorem content_text_open {g : Setting} {p : State} {index : Int} {id : String}
    {chunks : List String} (hb : p.builder = some (openText index id chunks))
    (properties : Option Fields) (s : String) :
    content g p ⟨properties, .text s⟩ =
      emitBodies p (openText index id chunks) (ItemBuilder.deltas index id s) := by
  have hcontinues := continues_of_open hb ⟨properties, .text s⟩
  rw [if_pos (BuilderKind.supports_text_iff.mpr ⟨s, rfl⟩)] at hcontinues
  rw [content_of_continues (fun _ => by simp) hcontinues, tell_open p index id chunks rfl]

theorem content_text_closed {g : Setting} {p : State} (hp : p.account.Closed)
    (properties : Option Fields) (s : String) :
    content g p ⟨properties, .text s⟩ =
      (close p).andThen fun q => introduce g q ⟨properties, .text s⟩ :=
  content_of_not_continues (fun _ => by simp) (continues_of_closed hp _)

theorem lasting_deltas (index : Int) (id s : String) :
    (ItemBuilder.deltas index id s).filter Event.Body.lasting = [] := by
  unfold ItemBuilder.deltas
  split <;> rfl

/-- A text goes on from a told one in the item that is open then. -/
theorem emitBodies_then_text {g : Setting} {p : State} {b : ItemBuilder} {told : List Event.Body}
    {index : Int} {id : String} {chunks : List String}
    (hb : told.foldl ItemBuilder.after b = openText index id chunks)
    (properties : Option Fields) (s : String) :
    ((emitBodies p b told).andThen fun q => content g q ⟨properties, .text s⟩) =
      emitBodies p b (told ++ ItemBuilder.deltas index id s) := by
  rw [emitBodies_append]
  refine Stretch.andThen_congr fun _ => ?_
  have haccount := (emitBodies_tells p b told).2.2
  rw [hb] at haccount ⊢
  exact content_text_open (congrArg Account.builder haccount) properties s

theorem foldl_after_cut (index : Int) (id : String) (chunks : List String) (s t : String) :
    ((ItemBuilder.deltas index id s ++ ItemBuilder.deltas index id t).foldl ItemBuilder.after
        (openText index id chunks)).joined =
      ((ItemBuilder.deltas index id (s ++ t)).foldl ItemBuilder.after
        (openText index id chunks)).joined := by
  rw [List.foldl_append, foldl_after_deltas, foldl_after_deltas, foldl_after_deltas]
  refine ItemBuilder.joined_eq_iff.mpr ⟨?_, rfl⟩
  simp only [ItemBuilder.text, openText, String.join_append, join_pieces, String.append_assoc]

/-- In an open item two pieces of a text are told as one, the pieces aside. -/
theorem content_cut_open {g : Setting} {p : State} {index : Int} {id : String}
    {chunks : List String} (hb : p.builder = some (openText index id chunks))
    (properties : Option Fields) (s t : String) :
    Stretch.Alike Event.Body.lasting
      ((content g p ⟨properties, .text s⟩).andThen fun q => content g q ⟨properties, .text t⟩)
      (content g p ⟨properties, .text (s ++ t)⟩) := by
  have hafter : (ItemBuilder.deltas index id s).foldl ItemBuilder.after (openText index id chunks) =
      openText index id (chunks ++ pieces s) := foldl_after_deltas _ index id s
  rw [content_text_open hb, content_text_open hb, emitBodies_then_text hafter properties t]
  refine emitBodies_alike_of (.refl p) ?_ ?_ (foldl_after_cut index id chunks s t)
  · simp only [List.filter_append, lasting_deltas, List.append_nil]
  · have hdeltas (s : String) : (ItemBuilder.deltas index id s).filterMap bodyItem? = [] :=
      finished_deltas index id s
    simp only [finished, List.filterMap_append, hdeltas, List.append_nil]

/-- A new text item opens empty and then goes on with its text. -/
theorem introduce_text {g : Setting} {p : State} (hk : .text ∈ g.kinds)
    (properties : Option Fields) (s : String) :
    introduce g p ⟨properties, .text s⟩ =
      (introduce g p ⟨properties, .text ""⟩).andThen fun q => content g q ⟨properties, .text s⟩ := by
  have hfind (s : String) :
      (g.kinds.find? fun k => k.supports ⟨properties, .text s⟩) = some .text := by
    obtain ⟨k, -, hs, hfind⟩ := find_supporting (c := ⟨properties, .text s⟩)
      ⟨.text, hk, BuilderKind.supports_text_iff.mpr ⟨s, rfl⟩⟩
    rw [BuilderKind.supports_of_text rfl, beq_iff_eq] at hs
    rw [hfind, hs]
  rw [introduce_of_spelled (BuilderKind.supports_text_iff.mpr ⟨s, rfl⟩) (hfind s) rfl,
    introduce_of_spelled (BuilderKind.supports_text_iff.mpr ⟨"", rfl⟩) (hfind "") rfl]
  cases p.supply.draw (ItemBuilder.drawId .text) with
  | mk drawn supply =>
    cases drawn with
    | error f => rfl
    | ok id =>
      have hopened := foldl_after_text (c := ⟨properties, .text ""⟩) rfl p.nextIndex id
      exact (emitBodies_then_text hopened properties s).symm

/-- Where an item is introduced, two pieces of a text are told as one. -/
theorem introduce_cut_text {g : Setting} {p : State} (hp : p.builder = none)
    (properties : Option Fields) (s t : String) :
    Stretch.Alike Event.Body.lasting
      ((introduce g p ⟨properties, .text s⟩).andThen fun q => content g q ⟨properties, .text t⟩)
      (introduce g p ⟨properties, .text (s ++ t)⟩) := by
  by_cases hk : .text ∈ g.kinds
  · rw [introduce_text hk properties s, introduce_text hk properties (s ++ t),
      Stretch.andThen_assoc]
    refine (Stretch.Alike.refl _).andThen fun hends _ => ?_
    obtain ⟨k, -, hs, -, id, -, haccount⟩ :=
      introduce_tells ⟨.text, hk, BuilderKind.supports_text_iff.mpr ⟨"", rfl⟩⟩ hends
    rw [BuilderKind.supports_of_text rfl, beq_iff_eq] at hs
    subst hs
    have hopened := foldl_after_text (c := ⟨properties, .text ""⟩) rfl p.nextIndex id
    have hbuilder : (introduce g p ⟨properties, .text ""⟩).state.builder = _ :=
      congrArg Account.builder haccount
    exact content_cut_open (hbuilder.trans (congrArg some hopened)) properties s t
  · have hunsupported (s : String) : ∀ k ∈ g.kinds, k.supports ⟨properties, .text s⟩ = false := by
      intro k hmem
      rw [BuilderKind.supports_of_text rfl]
      exact beq_eq_false_iff_ne.mpr fun h => hk (h ▸ hmem)
    have hclosed : p.account.Closed := fun b hb => by
      have hnone : p.account.builder = none := hp
      rw [hnone] at hb
      cases hb
    have hclose : close p = .quiet p := by simp only [close, hp]
    rw [introduce_unsupported (hunsupported s), introduce_unsupported (hunsupported (s ++ t)),
      Stretch.quiet_andThen, content_text_closed hclosed, hclose, Stretch.quiet_andThen,
      introduce_unsupported (hunsupported t)]
    exact .refl _

/-- Two pieces of a text are told as one, the pieces aside. -/
theorem content_cut_text (g : Setting) {p : State} (hp : p.account.Resting)
    (properties : Option Fields) (s t : String) :
    Stretch.Alike Event.Body.lasting
      ((content g p ⟨properties, .text s⟩).andThen fun q => content g q ⟨properties, .text t⟩)
      (content g p ⟨properties, .text (s ++ t)⟩) := by
  obtain hclosed | ⟨index, id, chunks, hb⟩ := hp
  · rw [content_text_closed hclosed, content_text_closed hclosed, Stretch.andThen_assoc]
    refine (Stretch.Alike.refl (close p)).andThen fun _ _ => ?_
    exact introduce_cut_text (congrArg Account.builder (close_tells p).2.2) properties s t
  · exact content_cut_open hb properties s t

theorem contents_append (g : Setting) (p : State) (cs ds : List Content) :
    contents g p (cs ++ ds) = (contents g p cs).andThen fun q => contents g q ds := by
  induction cs generalizing p with
  | nil => rfl
  | cons c rest ih => simp only [List.cons_append, contents, Stretch.andThen_assoc, ih]

theorem contents_cut_text (g : Setting) {p : State} (hp : p.account.Resting)
    (properties : Option Fields) (s t : String) (cs ds : List Content) :
    Stretch.Alike Event.Body.lasting
      (contents g p (cs ++ ⟨properties, .text s⟩ :: ⟨properties, .text t⟩ :: ds))
      (contents g p (cs ++ ⟨properties, .text (s ++ t)⟩ :: ds)) := by
  rw [contents_append, contents_append]
  refine (Stretch.Alike.refl (contents g p cs)).andThen fun hends _ => ?_
  have hresting : (contents g p cs).state.account.Resting :=
    ((contents_told g cs hp).tale hends).resting hp
  simp only [contents]
  rw [← Stretch.andThen_assoc]
  exact (content_cut_text g hresting properties s t).andThen fun _ halike =>
    contents_alike halike g ds

/-! ### Steps in pieces -/

theorem closedFor_resting {p : State} (hp : p.account.Resting) (u : Update) :
    (closedFor p u).state.account.Resting :=
  ((closedFor_told [] p.supply.ids.layout p u).tale (closedFor_ends p u)).resting hp

/-- An update with a text in two pieces. -/
theorem update_cut_text (g : Setting) {p : State} (hp : p.account.Resting) (identity : Identity)
    (properties : Option Fields) (s t : String) (cs ds : List Content) :
    Stretch.Alike Event.Body.lasting
      (update g p ⟨identity, cs ++ ⟨properties, .text s⟩ :: ⟨properties, .text t⟩ :: ds⟩)
      (update g p ⟨identity, cs ++ ⟨properties, .text (s ++ t)⟩ :: ds⟩) := by
  refine update_alike_of (.refl p) rfl fun r r' haccount halike => ?_
  have hresting : r.account.Resting := haccount ▸ closedFor_resting hp _
  exact (contents_cut_text g hresting properties s t cs ds).trans (contents_alike halike g _)

/-- An update in two halves. -/
theorem update_cut (g : Setting) (p : State) {now again : Identity} (h : now.GoesOn again)
    (cs ds : List Content) {seen : Event.Body → Bool} :
    Stretch.Alike seen
      ((update g p ⟨now, cs⟩).andThen fun q => update g q ⟨again, ds⟩)
      (update g p ⟨now, cs ++ ds⟩) := by
  cases hheard : g.cancellable && p.cancelled with
  | true =>
    rw [update_of_cancelled _ hheard, update_of_cancelled _ hheard]
    exact .refl _
  | false =>
    -- The second half neither starts a message nor hears a request to stop that the first did not.
    have hsecond : ((update g p ⟨now, cs⟩).andThen fun q => update g q ⟨again, ds⟩) =
        (update g p ⟨now, cs⟩).andThen fun q =>
          contents g { q with previous := some (Update.carry ⟨again, ds⟩ q.previous) } ds := by
      refine Stretch.andThen_congr fun hends => ?_
      obtain ⟨-, hcancelled, hprevious⟩ := update_kept g p ⟨now, cs⟩
      have hnew := Update.not_isNewMessage_goesOn h cs ds p.previous
      rw [← hprevious hends] at hnew
      rw [update_of_heard _ (hcancelled ▸ hheard), closedFor, if_neg (by rw [hnew]; simp)]
      rfl
    rw [hsecond, update_of_heard _ hheard, update_of_heard _ hheard, Stretch.andThen_assoc]
    have hclosing : Stretch.Alike seen (closedFor p ⟨now, cs⟩) (closedFor p ⟨now, cs ++ ds⟩) :=
      closedFor_alike (.refl p) rfl
    refine hclosing.andThen fun _ hclosed => ?_
    generalize (closedFor p ⟨now, cs⟩).state = q at *
    generalize (closedFor p ⟨now, cs ++ ds⟩).state = q' at *
    have hcarried : (Update.carry ⟨now, cs⟩ q.previous).identity =
        (Update.carry ⟨now, cs ++ ds⟩ q'.previous).identity :=
      Update.carry_congr rfl hclosed.previous
    simp only [contents_append]
    refine (contents_alike (hclosed.with_previous hcarried) g cs).andThen fun _ halike =>
      contents_alike ?_ g ds
    have hprevious := (contents_telling g
      { q with previous := some (Update.carry ⟨now, cs⟩ q.previous) } cs).previous
    refine ⟨halike.account, halike.ids, halike.entropy, ?_, halike.reason, halike.cancelled⟩
    rw [← halike.previous, hprevious]
    exact congrArg some ((Update.identity_carry_goesOn h cs ds q.previous).trans
      (Update.carry_congr rfl rfl))

/-! ### Whole runs in pieces -/

/-- Steps leave an account resting, as long as they do not fail. -/
theorem steps_resting {g : Setting} {p : State} {source : List RunStep} (hp : p.account.Resting)
    (h : (steps g p source).failure = none) : (steps g p source).state.account.Resting := by
  rw [← Attended.run_silent_steps] at h ⊢
  exact ((Attended.steps_told g .silent source hp).tale h).resting hp

/-- Steps that are alike from every resting state are alike in a whole run. -/
theorem project_alike (g : Setting) (supply : Supply) (reason : Option Value) (cancelled : Bool)
    (before after : List RunStep) {cut whole : List RunStep} {seen : Event.Body → Bool}
    (h : ∀ p : State, p.account.Resting →
      Stretch.Alike seen (steps g p cut) (steps g p whole)) :
    Stretch.Alike seen
      (project g (State.fresh supply reason cancelled) (before ++ (cut ++ after)))
      (project g (State.fresh supply reason cancelled) (before ++ (whole ++ after))) := by
  rw [project_fresh, project_fresh]
  refine (Stretch.Alike.refl _).andThen fun _ _ => ?_
  have hopened := (opening_tells g (State.fresh supply reason cancelled)).2.2.1
  generalize (opening g (State.fresh supply reason cancelled)).state = p at *
  have hresting : p.account.Resting := hopened ▸ fresh_resting supply reason cancelled
  refine Stretch.Alike.andThen ?_ fun _ halike => ending_alike halike g
  rw [steps_append, steps_append]
  refine (Stretch.Alike.refl _).andThen fun hends _ => ?_
  rw [steps_append, steps_append]
  exact (h _ (steps_resting hresting hends)).andThen fun _ halike => steps_alike halike g after

/-- What two runs that end well tell last is the same verdict, if they are alike but for the
pieces of texts. -/
theorem verdict_alike {g : Setting} {supply : Supply} {reason : Option Value} {cancelled : Bool}
    {cut whole : List RunStep}
    (h : Stretch.Alike Event.Body.lasting
      (project g (State.fresh supply reason cancelled) cut)
      (project g (State.fresh supply reason cancelled) whole))
    (hends : (project g (State.fresh supply reason cancelled) whole).failure = none) :
    ∃ kind last,
      (project g (State.fresh supply reason cancelled) cut).bodies.getLast? =
        some (.envelope kind last) ∧
      (project g (State.fresh supply reason cancelled) whole).bodies.getLast? =
        some (.envelope kind last) := by
  obtain ⟨_, _, kind, last, -, -, hwhole, -⟩ := project_tale hends
  obtain ⟨_, _, kind', last', -, -, hcut, -⟩ := project_tale (h.failure.trans hends)
  have hsame := h.bodies
  rw [hcut, hwhole, List.filter_append _ [_], List.filter_append _ [_]] at hsame
  obtain ⟨-, hlast⟩ := List.append_inj' hsame rfl
  have hlast : Event.Body.envelope kind' last' = .envelope kind last := (List.cons.inj hlast).1
  refine ⟨kind, last, ?_, ?_⟩
  · rw [hcut, List.getLast?_concat, hlast]
  · rw [hwhole, List.getLast?_concat]

/-- The lasting events of a stretch with nothing unknown, their numbers aside. -/
theorem Stretch.Plain.lasting_eq {s : Stretch} (h : s.Plain) :
    (s.events.filter fun e => e.body.lasting).map Event.unnumbered =
      (s.bodies.filter Event.Body.lasting).map (Event.plain 0) := by
  unfold Stretch.Plain at h
  unfold Stretch.bodies
  generalize s.events = events at h
  induction events with
  | nil => rfl
  | cons e rest ih =>
    obtain ⟨hextra, hrest⟩ := List.forall_mem_cons.mp h
    obtain ⟨number, body, extra⟩ := e
    obtain rfl : extra = [] := hextra
    rw [List.map_cons, List.filter_cons, List.filter_cons]
    split
    · rw [List.map_cons, List.map_cons, ih hrest]
      rfl
    · exact ih hrest

theorem updatesOf_append_cons (before after : List RunStep) (u : Update) :
    updatesOf (before ++ .update u :: after) = updatesOf before ++ u :: updatesOf after := by
  rw [updatesOf, List.filterMap_append, List.filterMap_cons]
  rfl

section
variable (g : Setting) (supply : Supply) (reason : Option Value) (cancelled : Bool)
  (before after : List RunStep) (cs ds : List Content)

/-- A run whose source has an update in two halves. -/
theorem project_halves {now again : Identity} (h : now.GoesOn again) {seen : Event.Body → Bool} :
    Stretch.Alike seen
      (project g (State.fresh supply reason cancelled)
        (before ++ .update ⟨now, cs⟩ :: .update ⟨again, ds⟩ :: after))
      (project g (State.fresh supply reason cancelled)
        (before ++ .update ⟨now, cs ++ ds⟩ :: after)) := by
  have hsteps (p : State) (_ : p.account.Resting) : Stretch.Alike seen
      (steps g p [.update ⟨now, cs⟩, .update ⟨again, ds⟩])
      (steps g p [.update ⟨now, cs ++ ds⟩]) := by
    simpa only [steps, step, Stretch.andThen_quiet] using update_cut g p h cs ds
  exact project_alike g supply reason cancelled before after hsteps

/-- A run whose source has a text in two pieces. -/
theorem project_pieces (identity : Identity) (properties : Option Fields) (s t : String) :
    Stretch.Alike Event.Body.lasting
      (project g (State.fresh supply reason cancelled) (before ++ .update
        ⟨identity, cs ++ ⟨properties, .text s⟩ :: ⟨properties, .text t⟩ :: ds⟩ :: after))
      (project g (State.fresh supply reason cancelled) (before ++ .update
        ⟨identity, cs ++ ⟨properties, .text (s ++ t)⟩ :: ds⟩ :: after)) := by
  have hsteps (p : State) (hp : p.account.Resting) : Stretch.Alike Event.Body.lasting
      (steps g p [.update
        ⟨identity, cs ++ ⟨properties, .text s⟩ :: ⟨properties, .text t⟩ :: ds⟩])
      (steps g p [.update ⟨identity, cs ++ ⟨properties, .text (s ++ t)⟩ :: ds⟩]) := by
    simpa only [steps, step, Stretch.andThen_quiet] using
      update_cut_text g hp identity properties s t cs ds
  exact project_alike g supply reason cancelled before after hsteps

end

/-- **A result does not depend on how an agent cuts its stream.** An update may come in two
halves, of which the second names the same identity or none: nothing of what is emitted
changes, nor what the updates add up to. A text may come in two pieces, and either of them may
be empty: only the pieces and the numbers change. All other events are the same, a run that
ends well has the same verdict with the same response, and the updates add up to the same. -/
theorem project_cut (g : Setting) (supply : Supply) (reason : Option Value) (cancelled : Bool)
    (before after : List RunStep) (identity : Identity) (cs ds : List Content) :
    let run := project g (State.fresh supply reason cancelled)
    (∀ again, identity.GoesOn again →
      let whole := before ++ .update ⟨identity, cs ++ ds⟩ :: after
      let halves := before ++ .update ⟨identity, cs⟩ :: .update ⟨again, ds⟩ :: after
      (run halves).events = (run whole).events ∧ (run halves).failure = (run whole).failure ∧
        Run.ofUpdates (updatesOf halves) = Run.ofUpdates (updatesOf whole)) ∧
    ∀ properties s t,
      let whole := before ++ .update ⟨identity, cs ++ ⟨properties, .text (s ++ t)⟩ :: ds⟩ :: after
      let pieces := before ++ .update
        ⟨identity, cs ++ ⟨properties, .text s⟩ :: ⟨properties, .text t⟩ :: ds⟩ :: after
      ((run pieces).events.filter fun e => e.body.lasting).map Event.unnumbered =
          ((run whole).events.filter fun e => e.body.lasting).map Event.unnumbered ∧
        (run pieces).failure = (run whole).failure ∧
        ((run whole).failure = none → ∃ kind last,
          (run pieces).bodies.getLast? = some (.envelope kind last) ∧
            (run whole).bodies.getLast? = some (.envelope kind last)) ∧
        Run.ofUpdates (updatesOf pieces) = Run.ofUpdates (updatesOf whole) := by
  intro run
  have hplain (source : List RunStep) : (run source).Plain :=
    project_plain g supply reason cancelled source
  constructor
  · intro again h whole halves
    have halike : Stretch.Alike (fun _ => true) (run halves) (run whole) :=
      project_halves g supply reason cancelled before after cs ds h
    refine ⟨?_, halike.failure, ?_⟩
    · have hbodies := halike.bodies
      rw [List.filter_eq_self.mpr fun _ _ => rfl, List.filter_eq_self.mpr fun _ _ => rfl] at hbodies
      exact (project_draws g _ halves).numbers.ext (project_draws g _ whole).numbers (hplain halves)
        (hplain whole) hbodies
    · simp only [halves, whole, updatesOf_append_cons]
      exact Run.ofUpdates_cut_update (updatesOf before) (updatesOf after) h cs ds
  · intro properties s t whole pieces
    have halike : Stretch.Alike Event.Body.lasting (run pieces) (run whole) :=
      project_pieces g supply reason cancelled before after cs ds identity properties s t
    refine ⟨?_, halike.failure, verdict_alike halike, ?_⟩
    · rw [(hplain pieces).lasting_eq, (hplain whole).lasting_eq, halike.bodies]
    · simp only [pieces, whole, updatesOf_append_cons]
      exact Run.ofUpdates_cut_text (updatesOf before) (updatesOf after) identity properties s t cs ds

/-- A text and a call in two updates are told event by event as in one; a second text in two
pieces is told with one piece more. -/
theorem talk_cut :
    let run := project talk (State.fresh talkSupply none false)
    let call : Content := ⟨none, .functionCall "call_1" "find" none⟩
    let author : Identity := ⟨some "a", none, none⟩
    (run [.update ⟨author, [.ofText "One "]⟩, .update ⟨.none, [call]⟩]).events =
        (run [.update ⟨author, [.ofText "One ", call]⟩]).events ∧
      (run [.update ⟨author, [.ofText "One ", .ofText "te", .ofText "xt", call]⟩]).failure =
        (run [.update ⟨author, [.ofText "One ", .ofText ("te" ++ "xt"), call]⟩]).failure ∧
      (run [.update ⟨author, [.ofText "One ", .ofText "te", .ofText "xt", call]⟩]).events.length =
        (run [.update ⟨author, [.ofText "One ", .ofText ("te" ++ "xt"), call]⟩]).events.length + 1 := by
  intro run call author
  obtain ⟨hhalves, hpieces⟩ :=
    project_cut talk talkSupply none false [] [] author [.ofText "One "] [call]
  exact ⟨(hhalves .none (.inr rfl)).1, (hpieces none "te" "xt").2.1, by decide⟩

end Projection
end AgentGateway
