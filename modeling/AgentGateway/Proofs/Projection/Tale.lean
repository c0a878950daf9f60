import AgentGateway.Projection
import AgentGateway.Proofs.ItemBuilder.Support
import AgentGateway.Proofs.Run.Beats

/-! The tale of a projection: what it tells, beat by beat.

Of a projection's state the telling looks at and changes only an *account*: the open
builder, the finished items, the token counts and the next item's index.

`Tells` lists all that one beat can do to an account of a run that goes on, and what it
tells; `Tale` is a run of beats. That projections follow them stands in `Telling`. What a
whole run keeps is proved of tales by induction, one case for each thing that a beat can do. -/
namespace AgentGateway

/-- The update that a step brings, if it brings one. -/
def RunStep.update? : RunStep → Option Update
  | .update u => some u
  | _ => none

/-- The updates of a source, in order. -/
def updatesOf (source : List RunStep) : List Update := source.filterMap RunStep.update?

namespace Projection

/-- The finished item that an event of some kind carries, if it carries one. -/
def bodyItem? : Event.Body → Option Item
  | .itemDone _ item => some item
  | _ => none

/-- The finished items among what is told. -/
def finished (told : List Event.Body) : List Item := told.filterMap bodyItem?

theorem doneItem?_eq (e : Event) : e.doneItem? = bodyItem? e.body := by
  obtain ⟨number, body, extra⟩ := e
  cases body <;> rfl

theorem doneItems_eq (events : List Event) :
    doneItems events = finished (events.map Event.body) := by
  have h : Event.doneItem? = bodyItem? ∘ Event.body := funext doneItem?_eq
  rw [doneItems, finished, List.filterMap_map, h]

/-- A text as it is told: not at all when it is empty. -/
def pieces (s : String) : List String := if s.isEmpty then [] else [s]

theorem join_pieces (s : String) : String.join (pieces s) = s := by
  unfold pieces
  split
  · rename_i h
    rw [String.isEmpty_iff.mp h]
    rfl
  · simp

/-- The builder of a text item that is open. -/
def openText (index : Int) (id : String) (chunks : List String) : ItemBuilder :=
  ⟨.text, index, false, some id, chunks⟩

/-! ### Accounts -/

structure Account where
  builder : Option ItemBuilder
  output : List Item
  usage : Option Usage
  nextIndex : Int

def State.account (p : State) : Account := ⟨p.builder, p.output, p.usage, p.nextIndex⟩

namespace Account

def empty : Account := ⟨none, [], none, 0⟩

/-- What closing the open builder tells. -/
def closing (a : Account) : List Event.Body := (a.builder.map ItemBuilder.completion).getD []

def closed (a : Account) : Account :=
  { a with builder := none, output := a.output ++ finished a.closing }

/-- No text item is open. -/
def Closed (a : Account) : Prop := ∀ b, a.builder = some b → b.completed = true

/-- Between two beats a builder is complete, or it is an open text builder. -/
def Resting (a : Account) : Prop :=
  a.Closed ∨ ∃ index id chunks, a.builder = some (openText index id chunks)

theorem closing_of_closed {a : Account} (h : a.Closed) : a.closing = [] := by
  unfold closing
  cases hb : a.builder with
  | none => rfl
  | some b => simp [ItemBuilder.completion, h b hb]

theorem closed_of_closed {a : Account} (h : a.Closed) : a.closed = { a with builder := none } := by
  simp [closed, closing_of_closed h, finished]

theorem closing_of_open {a : Account} {index : Int} {id : String} {chunks : List String}
    (h : a.builder = some (openText index id chunks)) :
    a.closing = ItemBuilder.closing index id (String.join chunks) := by
  simp only [closing, h, Option.map_some, Option.getD_some]
  rfl

theorem closed_of_open {a : Account} {index : Int} {id : String} {chunks : List String}
    (h : a.builder = some (openText index id chunks)) :
    a.closed = { a with
      builder := none
      output := a.output ++
        [.message id .completed [.outputText (String.join chunks)]] } := by
  simp only [closed, closing_of_open h]
  rfl

theorem Closed.closed (a : Account) : a.closed.Closed := by
  intro b hb
  cases hb

end Account

/-! ### Telling a beat -/

/-- All that a beat can do to an account, and what is told with it. -/
inductive Tells (kinds : List BuilderKind) (l : Layout) :
    Account → Beat → List Event.Body → Account → Prop where
  | boundary (a : Account) : Tells kinds l a .boundary a.closing a.closed
  | usage (a : Account) {c : Content} {details : Option Usage} (hc : c.body = .usage details) :
      Tells kinds l a (.content c) [] { a with usage := Usage.combine a.usage details }
  /-- A text goes on in the open text item. -/
  | delta (a : Account) {c : Content} {s : String} {index : Int} {id : String}
      {chunks : List String} (hb : a.builder = some (openText index id chunks))
      (hc : c.body = .text s) :
      Tells kinds l a (.content c) (ItemBuilder.deltas index id s)
        { a with builder := some (openText index id (chunks ++ pieces s)) }
  | dropped (a : Account) {c : Content} (hc : ∀ details, c.body ≠ .usage details)
      (unsupported : ∀ k ∈ kinds, k.supports c = false) :
      Tells kinds l a (.content c) a.closing a.closed
  | text (a : Account) {c : Content} {s : String} (id : String) (drawable : 0 ≤ l.entropy)
      (hk : .text ∈ kinds) (hb : a.Closed) (hc : c.body = .text s) :
      Tells kinds l a (.content c) (ItemBuilder.opening .text a.nextIndex id c)
        { a with
          builder := some (openText a.nextIndex id (pieces s))
          nextIndex := a.nextIndex + 1 }
  /-- An item that is told whole. -/
  | whole (a : Account) {c : Content} {k : BuilderKind} {b : ItemBuilder} (id : String)
      (drawable : 0 ≤ l.entropy) (hk : k ∈ kinds) (hs : k.supports c = true) (ht : k ≠ .text)
      (hb : b.completed = true) :
      Tells kinds l a (.content c) (a.closing ++ ItemBuilder.opening k a.nextIndex id c)
        { a.closed with
          builder := some b
          output := a.closed.output ++ finished (ItemBuilder.opening k a.nextIndex id c)
          nextIndex := a.nextIndex + 1 }

theorem Tells.resting {kinds : List BuilderKind} {l : Layout} {a a' : Account} {beat : Beat}
    {told : List Event.Body} (h : Tells kinds l a beat told a') (ha : a.Resting) : a'.Resting := by
  cases h with
  | boundary => exact .inl (.closed a)
  | usage => exact ha
  | delta => exact .inr ⟨_, _, _, rfl⟩
  | dropped => exact .inl (.closed a)
  | text => exact .inr ⟨_, _, _, rfl⟩
  | @whole _ _ b _ _ _ _ _ hb =>
    refine .inl fun b' hb' => ?_
    cases hb'
    exact hb

theorem Tells.usage_eq {kinds : List BuilderKind} {l : Layout} {a a' : Account} {beat : Beat}
    {told : List Event.Body} (h : Tells kinds l a beat told a') :
    a'.usage = Usage.after a.usage beat.content?.toList := by
  have hkept {c : Content} (hc : ∀ details, c.body ≠ .usage details) :
      a.usage = Usage.combine a.usage c.counts := by
    rw [Content.counts_of_not_usage hc, Usage.combine_none_right]
  cases h with
  | boundary => rfl
  | @usage c details hc =>
    have hcounts : c.counts = details := by simp only [Content.counts, hc]
    show Usage.combine a.usage details = Usage.combine a.usage c.counts
    rw [hcounts]
  | delta _ hc => exact hkept fun details h => by rw [hc] at h; cases h
  | dropped hc => exact hkept hc
  | text _ _ _ _ hc => exact hkept fun details h => by rw [hc] at h; cases h
  | whole _ _ _ hs => exact hkept fun details => BuilderKind.not_usage_of_supports hs details

/-- Where no identifier can be drawn no item is ever opened. -/
theorem Tells.unsupported {kinds : List BuilderKind} {l : Layout} {a a' : Account} {beat : Beat}
    {told : List Event.Body} (h : Tells kinds l a beat told a') (hl : l.entropy < 0)
    (ha : a.Closed) :
    a'.Closed ∧ ∀ c ∈ beat.content?, ∀ k ∈ kinds, k.supports c = false := by
  cases h with
  | boundary => exact ⟨.closed a, by simp [Beat.content?]⟩
  | usage hc =>
    refine ⟨ha, fun c' hc' k _ => ?_⟩
    obtain rfl := Option.some.inj hc'
    exact Bool.eq_false_iff.mpr fun hs => BuilderKind.not_usage_of_supports hs _ hc
  | delta hb => cases ha _ hb
  | dropped _ unsupported =>
    refine ⟨.closed a, fun c' hc' => ?_⟩
    obtain rfl := Option.some.inj hc'
    exact unsupported
  | text _ drawable => omega
  | whole _ drawable => omega

/-- A run of beats. -/
inductive Tale (kinds : List BuilderKind) (l : Layout) :
    Account → List Beat → List Event.Body → Account → Prop where
  | nil (a : Account) : Tale kinds l a [] [] a
  | cons {a a' a'' : Account} {beat : Beat} {rest : List Beat} {told more : List Event.Body}
      (head : Tells kinds l a beat told a') (tail : Tale kinds l a' rest more a'') :
      Tale kinds l a (beat :: rest) (told ++ more) a''

namespace Tale
variable {kinds : List BuilderKind} {l : Layout} {a a' a'' : Account}

theorem single {beat : Beat} {told : List Event.Body} (h : Tells kinds l a beat told a') :
    Tale kinds l a [beat] told a' := by
  rw [← List.append_nil told]
  exact .cons h (.nil a')

theorem append {before after : List Beat} {told more : List Event.Body}
    (h : Tale kinds l a before told a') (h' : Tale kinds l a' after more a'') :
    Tale kinds l a (before ++ after) (told ++ more) a'' := by
  induction h with
  | nil => exact h'
  | cons head _ ih =>
    rw [List.append_assoc]
    exact .cons head (ih h')

theorem split {before after : List Beat} {told : List Event.Body}
    (h : Tale kinds l a (before ++ after) told a'') :
    ∃ a' first rest, Tale kinds l a before first a' ∧ Tale kinds l a' after rest a'' ∧
      told = first ++ rest := by
  induction before generalizing a told with
  | nil => exact ⟨a, [], told, .nil a, h, rfl⟩
  | cons beat before ih =>
    cases h with
    | cons head tail =>
      obtain ⟨a', first, rest, hbefore, hafter, rfl⟩ := ih tail
      exact ⟨a', _, rest, .cons head hbefore, hafter, (List.append_assoc ..).symm⟩

theorem boundary {told : List Event.Body} (h : Tale kinds l a [.boundary] told a') :
    told = a.closing ∧ a' = a.closed := by
  cases h with
  | cons head tail =>
    cases head
    cases tail
    exact ⟨List.append_nil _, rfl⟩

theorem resting {bs : List Beat} {told : List Event.Body} (h : Tale kinds l a bs told a')
    (ha : a.Resting) : a'.Resting := by
  induction h with
  | nil => exact ha
  | cons head _ ih => exact ih (head.resting ha)

/-- A tale adds up the token counts of its beats. -/
theorem usage_eq {bs : List Beat} {told : List Event.Body} (h : Tale kinds l a bs told a') :
    a'.usage = Usage.after a.usage (bs.filterMap Beat.content?) := by
  induction h with
  | nil => rfl
  | @cons _ _ _ beat _ _ _ head _ ih =>
    rw [ih, head.usage_eq]
    cases beat <;> rfl

theorem unsupported {bs : List Beat} {told : List Event.Body} (h : Tale kinds l a bs told a')
    (hl : l.entropy < 0) (ha : a.Closed) :
    ∀ c ∈ bs.filterMap Beat.content?, ∀ k ∈ kinds, k.supports c = false := by
  induction h with
  | nil => simp
  | cons head _ ih =>
    obtain ⟨hclosed, hfirst⟩ := head.unsupported hl ha
    intro c hc
    obtain ⟨beat, hbeat, hcontent⟩ := List.mem_filterMap.mp hc
    obtain rfl | hrest := List.mem_cons.mp hbeat
    · exact hfirst c hcontent
    · exact ih hclosed c (List.mem_filterMap.mpr ⟨beat, hrest, hcontent⟩)

end Tale

end Projection
end AgentGateway
