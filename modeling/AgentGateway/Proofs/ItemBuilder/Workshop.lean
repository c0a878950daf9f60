import AgentGateway.Proofs.ItemBuilder.Calls
import AgentGateway.Proofs.ItemBuilder.Pulling

/-! Builders that share one sequence of numbers and one source of identifiers.

A caller starts cursors on any of them, pulls events from the cursors one at a time and in any
order, completes builders, and takes numbers from the sequence himself. Whatever he does, the
numbers that he is handed count up without a gap (`shared_counter`). A cursor that is started, and
one that has nothing left, takes none. Identifiers are drawn as items are opened, and an item is
opened by the first event that is pulled for it.

What one thing after another does is put together by `Workshop.Passes.trans`; what each does by
itself is `Workshop.Sound.step`. -/
namespace AgentGateway

open Projection (opened)

/-! ### What builders share -/

/-- The builders, the cursors that were started on them, each with the place of its builder, and
what they all draw from. -/
structure Workshop where
  builders : List StampedBuilder
  cursors : List (Nat × ItemBuilder.Cursor)
  supply : Supply
  sequence : Sequence

namespace Workshop
open ItemBuilder (Offer Cursor)

def new (items : List (BuilderKind × Int)) (start : Int) (supply : Supply) : Workshop where
  builders := items.map fun item => .new item.1 (.int item.2)
  cursors := []
  supply
  sequence := ⟨.int start⟩

inductive Action where
  /-- Hand an offer to a builder, for a cursor. -/
  | start (g : Nat) (o : Offer)
  /-- Pull one event from a cursor. -/
  | pull (n : Nat)
  | complete (g : Nat)
  /-- Take a number. -/
  | draw

inductive Outcome where
  /-- There is no such builder or no such cursor. -/
  | absent
  | refused (r : Report)
  | begun
  /-- A builder's events, none where nothing was left of a cursor. -/
  | gave (g : Nat) (events : List Event)
  | number (n : Value)
  | failed (f : Failure)

/-- What pulling or completing gave. -/
def Outcome.ofResult (g : Nat) : Except Failure (List Event) → Outcome
  | .ok events => .gave g events
  | .error f => .failed f

def put (w : Workshop) (g : Nat) (b : StampedBuilder) : Workshop :=
  { w with builders := w.builders.set g b }

def start (w : Workshop) (g : Nat) (b : StampedBuilder) : Offer → Outcome × Workshop
  | .content c => match b.builder.start c with
    | .error r => (.refused r, w)
    | .ok (builder, cursor) =>
      (.begun, { w.put g { b with builder } with cursors := w.cursors ++ [(g, cursor)] })
  | .other name => match b.builder.accept false name with
    | .error r => (.refused r, w)
    | .ok () => (.begun, w)

def pull (w : Workshop) (n g : Nat) (b : StampedBuilder) (c : Cursor) : Outcome × Workshop :=
  let p := b.pull w.supply w.sequence c
  (.ofResult g (p.result.map Option.toList),
    { w.put g p.builder with
      cursors := w.cursors.set n (g, p.cursor), supply := p.supply, sequence := p.sequence })

def complete (w : Workshop) (g : Nat) (b : StampedBuilder) : Outcome × Workshop :=
  let (result, b, sequence) := b.complete w.sequence
  (.ofResult g result, { w.put g b with sequence })

def step (w : Workshop) : Action → Outcome × Workshop
  | .start g o => match w.builders[g]? with
    | some b => w.start g b o
    | none => (.absent, w)
  | .pull n => match w.cursors[n]? with
    | some (g, c) => match w.builders[g]? with
      | some b => w.pull n g b c
      | none => (.absent, w)
    | none => (.absent, w)
  | .complete g => match w.builders[g]? with
    | some b => w.complete g b
    | none => (.absent, w)
  | .draw => match w.sequence.next with
    | .ok (n, sequence) => (.number n, { w with sequence })
    | .error f => (.failed f, w)

/-- A workshop after some actions. -/
def after (w : Workshop) : List Action → Workshop
  | [] => w
  | a :: rest => (w.step a).2.after rest

/-- What some actions give, one after the other. -/
def history (w : Workshop) : List Action → List Outcome
  | [] => []
  | a :: rest => (w.step a).1 :: (w.step a).2.history rest

/-! ### What is handed out -/

namespace Outcome

/-- The numbers that are handed out, with an event or by themselves. -/
def numbers : Outcome → List Value
  | gave _ events => events.map fun e => .int e.number
  | number n => [n]
  | _ => []

/-- What is told, without the numbers. -/
def told : Outcome → List Event.Body
  | gave _ events => events.map Event.body
  | _ => []

/-- What one builder tells. -/
def toldBy (g : Nat) : Outcome → List Event.Body
  | gave g' events => if g' = g then events.map Event.body else []
  | _ => []

end Outcome

def numbersIn (os : List Outcome) : List Value := os.flatMap Outcome.numbers

def toldIn (os : List Outcome) : List Event.Body := os.flatMap Outcome.told

def toldByIn (g : Nat) (os : List Outcome) : List Event.Body := os.flatMap (Outcome.toldBy g)

/-- So many numbers from one on, counted by ones. -/
def countFrom (n : Int) (count : Nat) : List Value :=
  (List.range count).map fun k : Nat => .int (n + k)

theorem countFrom_add (n : Int) (a b : Nat) :
    countFrom n (a + b) = countFrom n a ++ countFrom (n + a) b := by
  simp [countFrom, List.range_add, Function.comp_def, Int.add_assoc]

/-- Events are numbered by counting. -/
theorem numbers_numbered (n index : Int) (bodies : List Event.Body) :
    (Event.numbered n index bodies).map (fun e => Value.int e.number) =
      countFrom n bodies.length := by
  induction bodies generalizing n with
  | nil => rfl
  | cons body rest ih =>
    rw [List.length_cons, Nat.add_comm, countFrom_add]
    simp only [Event.numbered, List.map_cons, ih]
    simp [countFrom, Event.plain]

/-! ### One action -/

variable {w w' w'' : Workshop} {os more : List Outcome}

/-- What the workshops have in common that are made with whole numbers: indices and numbers are
whole, and every cursor is backed by its builder. -/
structure Sound (w : Workshop) : Prop where
  indices : ∀ b ∈ w.builders, ∃ i, b.index = .int i
  sequence : ∃ n, w.sequence = ⟨.int n⟩
  backed : ∀ g c b, (g, c) ∈ w.cursors → w.builders[g]? = some b → b.builder.Backs c

/-- What becomes of a workshop while it gives something: numbers are counted by ones, identifiers
are drawn for the items that are opened, and each builder knows its item's identifier by what it
has told. -/
structure Passes (w : Workshop) (os : List Outcome) (w' : Workshop) : Prop where
  numbers : ∀ n, w.sequence = ⟨.int n⟩ → numbersIn os = countFrom n (numbersIn os).length ∧
    w'.sequence = ⟨.int (n + (numbersIn os).length)⟩
  names : w.supply.Names (toldIn os) w'.supply
  builders : ∀ g b', w'.builders[g]? = some b' →
    ∃ b, w.builders[g]? = some b ∧ Opens b.builder.itemId (toldByIn g os) b'.builder.itemId

theorem Passes.refl (w : Workshop) : w.Passes [] w := by
  refine ⟨fun n hn => ⟨rfl, by simpa [numbersIn] using hn⟩, .of_silent rfl rfl rfl, ?_⟩
  exact fun g b hb => ⟨b, hb, .nothing _⟩

theorem Passes.trans (h : w.Passes os w') (hmore : w'.Passes more w'') :
    w.Passes (os ++ more) w'' := by
  refine ⟨fun n hn => ?_, ?_, fun g b'' hb'' => ?_⟩
  · obtain ⟨hnumbers, hsequence⟩ := h.numbers n hn
    obtain ⟨hnumbers', hsequence'⟩ := hmore.numbers _ hsequence
    have hall : numbersIn (os ++ more) = numbersIn os ++ numbersIn more := List.flatMap_append
    refine ⟨?_, ?_⟩
    · rw [hall, List.length_append, countFrom_add, ← hnumbers, ← hnumbers']
    · rw [hsequence', hall, List.length_append, Int.natCast_add, Int.add_assoc]
  · rw [toldIn, List.flatMap_append]
    exact h.names.append hmore.names
  · obtain ⟨b', hb', hopens'⟩ := hmore.builders g b'' hb''
    obtain ⟨b, hb, hopens⟩ := h.builders g b' hb'
    refine ⟨b, hb, ?_⟩
    rw [toldByIn, List.flatMap_append]
    exact hopens.append hopens'

/-- What an action gives is what one builder tells, numbered from one number on. -/
structure Outcome.Gives (o : Outcome) (g : Nat) (n index : Int) (bodies : List Event.Body) :
    Prop where
  numbers : o.numbers = countFrom n bodies.length
  told : o.told = bodies.map (Event.Body.moveTo index)
  toldBy : ∀ g', o.toldBy g' = if g = g' then bodies.map (Event.Body.moveTo index) else []

theorem Outcome.gives_numbered (g : Nat) (n index : Int) (bodies : List Event.Body) :
    (gave g (Event.numbered n index bodies)).Gives g n index bodies := by
  refine ⟨numbers_numbered n index bodies, Event.bodies_numbered n index bodies, ?_⟩
  intro g'
  rw [toldBy, Event.bodies_numbered]

/-- What gives nothing. -/
structure Outcome.Silent (o : Outcome) : Prop where
  numbers : o.numbers = []
  told : o.told = []
  toldBy : ∀ g, o.toldBy g = []

theorem Outcome.Silent.gives {o : Outcome} (h : o.Silent) (g : Nat) (n index : Int) :
    o.Gives g n index [] :=
  ⟨h.numbers, h.told, fun g' => (h.toldBy g').trans (ite_self _).symm⟩

theorem Passes.silent {o : Outcome} (h : o.Silent) : w.Passes [o] w := by
  have hnumbers : numbersIn [o] = [] := by simpa [numbersIn] using h.numbers
  refine ⟨fun n hn => ?_, .of_silent rfl rfl ?_, fun g b hb => ⟨b, hb, ?_⟩⟩
  · rw [hnumbers]
    exact ⟨rfl, by simpa using hn⟩
  · rw [show toldIn [o] = o.told by simp [toldIn], h.told]
    rfl
  · rw [show toldByIn g [o] = o.toldBy g by simp [toldByIn], h.toldBy]
    exact .nothing _

section
variable (b' : StampedBuilder) {g : Nat} {b : StampedBuilder} {n index : Int}
  {bodies : List Event.Body} {o : Outcome} {cursors : List (Nat × Cursor)} {supply : Supply}
  {sequence : Sequence} (hb : w.builders[g]? = some b)
include hb

theorem builders_set_self : (w.builders.set g b')[g]? = some b' :=
  List.getElem?_set_self (List.getElem?_eq_some_iff.mp hb).1

/-- A builder in another's place backs its own cursors, new and old. -/
theorem Sound.set (h : w.Sound) (hbi : b.index = .int index) (hindex : b'.index = b.index)
    (hkind : b'.builder.kind = b.builder.kind)
    (hopens : Opens b.builder.itemId bodies b'.builder.itemId)
    (hcursors : ∀ g' c, (g', c) ∈ cursors → (g', c) ∈ w.cursors ∨ g' = g ∧ b'.builder.Backs c)
    (hsequence : sequence = ⟨.int n⟩) :
    Sound ⟨w.builders.set g b', cursors, supply, sequence⟩ where
  indices x hx := by
    obtain hx | rfl := List.mem_or_eq_of_mem_set hx
    · exact h.indices x hx
    · exact ⟨index, hindex.trans hbi⟩
  sequence := ⟨n, hsequence⟩
  backed g' c x hmem hx := by
    by_cases hg : g = g'
    · subst hg
      obtain rfl := Option.some.inj ((builders_set_self b' hb).symm.trans hx)
      obtain hmem | ⟨-, hbacks⟩ := hcursors g c hmem
      · exact (h.backed g c b hmem hb).kept hkind hopens
      · exact hbacks
    · rw [List.getElem?_set_ne hg] at hx
      obtain hmem | ⟨rfl, -⟩ := hcursors g' c hmem
      · exact h.backed g' c x hmem hx
      · exact absurd rfl hg

/-- What one builder tells is numbered and named for all of them. -/
theorem Passes.set (hn : w.sequence = ⟨.int n⟩)
    (hopens : Opens b.builder.itemId bodies b'.builder.itemId)
    (hnames : w.supply.Names bodies supply)
    (hsequence : sequence = ⟨.int (n + bodies.length)⟩) (ho : o.Gives g n index bodies) :
    w.Passes [o] ⟨w.builders.set g b', cursors, supply, sequence⟩ where
  numbers n' hn' := by
    obtain rfl : n = n' := by simpa [hn] using hn'
    have hnumbers : numbersIn [o] = countFrom n bodies.length := by
      simpa [numbersIn] using ho.numbers
    rw [hnumbers, show (countFrom n bodies.length).length = bodies.length by simp [countFrom]]
    exact ⟨rfl, hsequence⟩
  names := by
    rw [show toldIn [o] = o.told by simp [toldIn], ho.told]
    exact hnames.moved index
  builders g' x hx := by
    rw [show toldByIn g' [o] = o.toldBy g' by simp [toldByIn], ho.toldBy]
    by_cases hg : g = g'
    · subst hg
      obtain rfl := Option.some.inj ((builders_set_self b' hb).symm.trans hx)
      rw [if_pos rfl]
      exact ⟨b, hb, hopens.moved index⟩
    · rw [List.getElem?_set_ne hg] at hx
      rw [if_neg hg]
      exact ⟨x, hx, .nothing _⟩

/-- The law for one builder that tells something, whatever becomes of it then. -/
theorem Sound.put (h : w.Sound) (hbi : b.index = .int index) (hn : w.sequence = ⟨.int n⟩)
    (hindex : b'.index = b.index) (hkind : b'.builder.kind = b.builder.kind)
    (hopens : Opens b.builder.itemId bodies b'.builder.itemId)
    (hnames : w.supply.Names bodies supply)
    (hcursors : ∀ g' c, (g', c) ∈ cursors → (g', c) ∈ w.cursors ∨ g' = g ∧ b'.builder.Backs c)
    (hsequence : sequence = ⟨.int (n + bodies.length)⟩) (ho : o.Gives g n index bodies) :
    let w' : Workshop := ⟨w.builders.set g b', cursors, supply, sequence⟩
    w'.Sound ∧ w.Passes [o] w' :=
  ⟨.set b' hb h hbi hindex hkind hopens hcursors hsequence,
    .set b' hb hn hopens hnames hsequence ho⟩

end

theorem complete_eq {g : Nat} {b : StampedBuilder} {n index : Int} (hn : w.sequence = ⟨.int n⟩)
    (hindex : b.index = .int index) :
    w.complete g b = (.gave g (Event.numbered n index b.builder.completion),
      { w.put g { b with builder := b.builder.complete } with
        sequence := ⟨.int (n + b.builder.completion.length)⟩ }) := by
  rw [complete, StampedBuilder.complete, hn, hindex, Sequence.stampAll_int]
  rfl

section
variable (h : w.Sound) {g : Nat} {b : StampedBuilder} (hb : w.builders[g]? = some b)
include h hb

theorem Sound.start (o : Offer) :
    (w.start g b o).2.Sound ∧ w.Passes [(w.start g b o).1] (w.start g b o).2 := by
  obtain ⟨n, hn⟩ := h.sequence
  obtain ⟨index, hindex⟩ := h.indices b (List.mem_of_getElem? hb)
  cases o with
  | other name =>
    rw [Workshop.start]
    cases b.builder.accept false name <;> exact ⟨h, .silent ⟨rfl, rfl, fun _ => rfl⟩⟩
  | content c =>
    rw [Workshop.start, ItemBuilder.start_eq]
    cases hrefusal : b.builder.refusal? (.content c) with
    | some r => exact ⟨h, .silent ⟨rfl, rfl, fun _ => rfl⟩⟩
    | none =>
      obtain ⟨-, c', hc', hsupports⟩ := ItemBuilder.not_completed_of_accepted hrefusal
      obtain rfl := Offer.content.inj hc'
      have hsilent : Outcome.begun.Silent := ⟨rfl, rfl, fun _ => rfl⟩
      refine h.put { b with builder := b.builder.taking } hb hindex hn rfl rfl (.nothing _)
        (.of_silent rfl rfl rfl) (fun g' c' hmem => ?_) (hn.trans (by simp))
        (hsilent.gives g n index)
      obtain hmem | hmem := List.mem_append.mp hmem
      · exact .inl hmem
      · obtain ⟨rfl, rfl⟩ := Prod.mk.inj (List.mem_singleton.mp hmem)
        exact .inr ⟨rfl, hsupports⟩

theorem Sound.complete :
    (w.complete g b).2.Sound ∧ w.Passes [(w.complete g b).1] (w.complete g b).2 := by
  obtain ⟨n, hn⟩ := h.sequence
  obtain ⟨index, hindex⟩ := h.indices b (List.mem_of_getElem? hb)
  rw [complete_eq hn hindex]
  exact h.put { b with builder := b.builder.complete } hb hindex hn rfl rfl
    (ItemBuilder.completion_opens b.builder)
    (.of_silent rfl rfl (Projection.opened_completion b.builder)) (fun g' c hmem => .inl hmem) rfl
    (Outcome.gives_numbered g n index _)

theorem Sound.pull {n : Nat} {c : Cursor} (hc : w.cursors[n]? = some (g, c)) :
    (w.pull n g b c).2.Sound ∧ w.Passes [(w.pull n g b c).1] (w.pull n g b c).2 := by
  obtain ⟨m, hm⟩ := h.sequence
  obtain ⟨index, hindex⟩ := h.indices b (List.mem_of_getElem? hb)
  have hpulls : ItemBuilder.Pulls b.builder w.supply (b.builder.pull w.supply c) :=
    ItemBuilder.pulls (h.backed g c b (List.mem_of_getElem? hc) hb)
  have hcursors {b' : ItemBuilder} {rest : List Event.Body} (hbacks : b'.Backs (.pending rest))
      (g' : Nat) (c' : Cursor) (hmem : (g', c') ∈ w.cursors.set n (g, .pending rest)) :
      (g', c') ∈ w.cursors ∨ g' = g ∧ b'.Backs c' := by
    obtain hmem | hmem := List.mem_or_eq_of_mem_set hmem
    · exact .inl hmem
    · obtain ⟨rfl, rfl⟩ := Prod.mk.inj hmem
      exact .inr ⟨rfl, hbacks⟩
  have hnone : b.builder.Backs (.pending []) := ⟨rfl, fun hne => absurd rfl hne⟩
  unfold Workshop.pull StampedBuilder.pull
  revert hpulls
  generalize b.builder.pull w.supply c = result
  intro hpulls
  cases hpulls with
  | failed f =>
    have hsilent : (Outcome.failed f).Silent := ⟨rfl, rfl, fun _ => rfl⟩
    exact h.put b hb hindex hm rfl rfl (.nothing _) (.of_silent rfl rfl rfl)
      (hcursors hnone) (hm.trans (by simp)) (hsilent.gives g m index)
  | exhausted =>
    exact h.put b hb hindex hm rfl rfl (.nothing _) (.of_silent rfl rfl rfl)
      (hcursors hnone) (hm.trans (by simp)) (Outcome.gives_numbered g m index [])
  | @event b' body rest supply hkind hopens hbacks hnames =>
    have hstamp : w.sequence.stamp b.index body =
        (.ok (.plain m (body.moveTo index)), ⟨.int (m + 1)⟩) := by
      rw [hm, hindex, Sequence.stamp_int]
    have hbody : (Event.plain w.supply.number body).body = body := rfl
    simp only [hbody, hstamp]
    exact h.put { b with builder := b' } hb hindex hm rfl hkind hopens hnames
      (hcursors hbacks) rfl (Outcome.gives_numbered g m index [body])

end

/-- What an action comes to. -/
inductive Steps (w : Workshop) : Action → Outcome × Workshop → Prop
  | absent (a : Action) : Steps w a (.absent, w)
  | start {g : Nat} {b : StampedBuilder} (hb : w.builders[g]? = some b) (o : Offer) :
    Steps w (.start g o) (w.start g b o)
  | pull {n g : Nat} {c : Cursor} {b : StampedBuilder} (hc : w.cursors[n]? = some (g, c))
    (hb : w.builders[g]? = some b) : Steps w (.pull n) (w.pull n g b c)
  | complete {g : Nat} {b : StampedBuilder} (hb : w.builders[g]? = some b) :
    Steps w (.complete g) (w.complete g b)
  | draw {n : Value} {sequence : Sequence} (h : w.sequence.next = .ok (n, sequence)) :
    Steps w .draw (.number n, { w with sequence })
  | stuck {f : Failure} (h : w.sequence.next = .error f) : Steps w .draw (.failed f, w)

theorem steps (w : Workshop) (a : Action) : w.Steps a (w.step a) := by
  cases a with
  | start g o =>
    rw [step]
    cases hb : w.builders[g]? with
    | none => exact .absent _
    | some b => exact .start hb o
  | pull n =>
    rw [step]
    cases hc : w.cursors[n]? with
    | none => exact .absent _
    | some entry =>
      obtain ⟨g, c⟩ := entry
      dsimp only
      cases hb : w.builders[g]? with
      | none => exact .absent _
      | some b => exact .pull hc hb
  | complete g =>
    rw [step]
    cases hb : w.builders[g]? with
    | none => exact .absent _
    | some b => exact .complete hb
  | draw =>
    rw [step]
    cases h : w.sequence.next with
    | error f => exact .stuck h
    | ok next => exact .draw h

theorem Sound.step (h : w.Sound) (a : Action) :
    (w.step a).2.Sound ∧ w.Passes [(w.step a).1] (w.step a).2 := by
  have hsteps := w.steps a
  generalize w.step a = result at hsteps ⊢
  cases hsteps with
  | absent => exact ⟨h, .silent ⟨rfl, rfl, fun _ => rfl⟩⟩
  | start hb o => exact h.start hb o
  | pull hc hb => exact h.pull hb hc
  | complete hb => exact h.complete hb
  | stuck => exact ⟨h, .silent ⟨rfl, rfl, fun _ => rfl⟩⟩
  | draw hnext =>
    obtain ⟨n, hn⟩ := h.sequence
    rw [hn, Sequence.next_int] at hnext
    obtain ⟨rfl, rfl⟩ := Prod.mk.inj (Except.ok.inj hnext)
    refine ⟨⟨h.indices, ⟨n + 1, rfl⟩, h.backed⟩, fun n' hn' => ?_, .of_silent rfl rfl rfl,
      fun g b hb => ⟨b, hb, .nothing _⟩⟩
    obtain rfl : n = n' := by simpa [hn] using hn'
    exact ⟨by simp [numbersIn, Outcome.numbers, countFrom], rfl⟩

/-! ### Many actions -/

theorem Sound.run (h : w.Sound) (actions : List Action) :
    (w.after actions).Sound ∧ w.Passes (w.history actions) (w.after actions) := by
  induction actions generalizing w with
  | nil => exact ⟨h, .refl w⟩
  | cons a rest ih =>
    obtain ⟨hstep, hpasses⟩ := h.step a
    obtain ⟨hrest, hmore⟩ := ih hstep
    exact ⟨hrest, hpasses.trans hmore⟩

end Workshop
end AgentGateway
