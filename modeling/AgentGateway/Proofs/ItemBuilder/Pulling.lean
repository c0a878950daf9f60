import AgentGateway.ItemBuilder.Stamped
import AgentGateway.Proofs.Projection.Naming

/-! What one pull from a builder does.

A cursor may wait while its builder tells other things, so what a pull does is said of any builder
that backs the cursor (`ItemBuilder.pulls`): the first event that is pulled for an item opens it,
with the identifier that is drawn then, and no other event opens anything. How a builder comes to
know its identifier by what it tells is `Opens`, and what is drawn for it is `Supply.Names`; both
are put together from their pieces by `append`. -/
namespace AgentGateway

open Projection (opened openedItem?)

/-- How a builder comes to know its item's identifier by what it tells: it has none before it tells
anything, and then it opens its item with the one that it has from there on. -/
inductive Opens : Option String → List Event.Body → Option String → Prop
  | nothing (id? : Option String) : Opens id? [] id?
  | going (id : String) {told : List Event.Body} (h : opened told = []) :
    Opens (some id) told (some id)
  | first {id : String} {index : Int} {item : Item} {told : List Event.Body}
    (hid : item.id? = some id) (h : opened told = []) :
    Opens none (.itemAdded index item :: told) (some id)

/-- Where the item of an event is does not matter to what is opened. -/
theorem opened_moved (told : List Event.Body) (index : Int) :
    opened (told.map (Event.Body.moveTo index)) = opened told := by
  have hbody (body : Event.Body) : openedItem? (body.moveTo index) = openedItem? body := by
    cases body <;> rfl
  simp only [opened, List.filterMap_map, Function.comp_def, hbody]

namespace Opens
variable {a b c : Option String} {told more : List Event.Body}

theorem append (h : Opens a told b) (hmore : Opens b more c) : Opens a (told ++ more) c := by
  cases h with
  | nothing => exact hmore
  | going id h =>
    cases hmore with
    | nothing => exact .going id (by simpa using h)
    | going _ hmore => exact .going id (by simp [h, hmore])
  | first hid h =>
    cases hmore with
    | nothing => exact .first hid (by simpa using h)
    | going _ hmore => exact .first hid (by simp [h, hmore])

theorem moved (h : Opens a told b) (index : Int) :
    Opens a (told.map (Event.Body.moveTo index)) b := by
  cases h with
  | nothing => exact .nothing a
  | going id h => exact .going id (by rwa [opened_moved])
  | first hid h => exact .first hid (by rwa [opened_moved])

theorem isSome (h : Opens a told b) (ha : a.isSome) : b.isSome := by
  cases h with
  | nothing => exact ha
  | going | first => rfl

end Opens

/-- What is told opens items that are named from a supply's characters, and nothing else is
drawn. -/
structure Supply.Names (s : Supply) (told : List Event.Body) (s' : Supply) : Prop where
  ids : s'.ids = s.ids
  named : s.ids.Named s.entropy (opened told)
  entropy : s'.entropy = s.ids.after (opened told).length s.entropy

namespace Supply.Names
variable {s s' s'' : Supply} {told more : List Event.Body}

theorem of_silent (hids : s'.ids = s.ids) (hentropy : s'.entropy = s.entropy)
    (hopened : opened told = []) : Names s told s' := by
  refine ⟨hids, ?_, ?_⟩
  · rw [hopened]
    exact s.ids.named_nil s.entropy
  · rw [hopened, hentropy, List.length_nil, s.ids.after_zero]

theorem moved (h : Names s told s') (index : Int) :
    Names s (told.map (Event.Body.moveTo index)) s' := by
  refine ⟨h.ids, ?_, ?_⟩
  · rw [opened_moved]
    exact h.named
  · rw [opened_moved]
    exact h.entropy

theorem append (h : Names s told s') (hmore : Names s' more s'') :
    Names s (told ++ more) s'' := by
  obtain ⟨hids, hnamed, hentropy⟩ := hmore
  rw [h.ids] at hids hnamed hentropy
  rw [h.entropy] at hnamed hentropy
  refine ⟨hids, ?_, ?_⟩
  · rw [Projection.opened_append]
    exact h.named.append hnamed
  · rw [Projection.opened_append, List.length_append, hentropy, s.ids.after_after]

end Supply.Names

namespace ItemBuilder
variable {b : ItemBuilder} {s : Supply} {c : Cursor}

/-- What a builder can go on with: a content that it supports, or more of the item that it has
opened. -/
def Backs (b : ItemBuilder) : Cursor → Prop
  | .fresh c => b.kind.supports c = true
  | .pending bodies => opened bodies = [] ∧ (bodies ≠ [] → b.itemId.isSome)

/-- A builder that goes on with its item backs what it has backed. -/
theorem Backs.kept {b' : ItemBuilder} {told : List Event.Body} (h : b.Backs c)
    (hkind : b'.kind = b.kind) (hopens : Opens b.itemId told b'.itemId) : b'.Backs c := by
  cases c with
  | fresh content => rwa [Backs, hkind]
  | pending bodies => exact ⟨h.1, fun hne => hopens.isSome (h.2 hne)⟩

/-- Completing tells of an open item only. -/
theorem completion_opens (b : ItemBuilder) : Opens b.itemId b.completion b.complete.itemId := by
  show Opens b.itemId b.completion b.itemId
  cases hid : b.itemId with
  | some id => exact .going id (Projection.opened_completion b)
  | none =>
    have hnothing : b.completion = [] := by
      unfold completion
      rw [hid]
      cases b.completed <;> cases b.kind <;> rfl
    rw [hnothing]
    exact .nothing none

/-- What pulling does: nothing, where the item's identifier cannot be drawn; nothing, where nothing
is left; or the next event, which opens the item if it is the first of it. -/
inductive Pulls (b : ItemBuilder) (s : Supply) : Except (Failure × Supply) Pulled → Prop
  | failed (f : Failure) : Pulls b s (.error (f, s))
  | exhausted : Pulls b s (.ok ⟨none, b, .pending [], s⟩)
  | event {b' : ItemBuilder} {body : Event.Body} {rest : List Event.Body} {s' : Supply}
    (hkind : b'.kind = b.kind) (hopens : Opens b.itemId [body] b'.itemId)
    (hbacks : b'.Backs (.pending rest)) (hnames : s.Names [body] s') :
    Pulls b s (.ok ⟨some (.plain s.number body), b', .pending rest, s'⟩)

theorem pulls_pending {bodies : List Event.Body} (h : b.Backs (.pending bodies)) :
    Pulls b s (.ok (b.pullPending s bodies)) := by
  obtain ⟨hsilent, hopen⟩ := h
  cases bodies with
  | nil => exact .exhausted
  | cons body rest =>
    obtain ⟨id, hid⟩ := Option.isSome_iff_exists.mp (hopen (List.cons_ne_nil _ _))
    have hsplit := Projection.opened_append [body] rest
    obtain ⟨hbody, hrest⟩ := List.append_eq_nil_iff.mp (hsplit.symm.trans hsilent)
    have hafter : (b.after body).itemId = b.itemId := by cases body <;> rfl
    refine .event (by cases body <;> rfl) ?_ ⟨hrest, fun _ => ?_⟩ (.of_silent rfl rfl hbody)
    · rw [hafter, hid]
      exact .going id hbody
    · rw [hafter, hid]
      rfl

/-- The first content of an item opens it with its first event, and with no other. -/
theorem opening_cons {k : BuilderKind} {c : Content} (hs : k.supports c = true) (index : Int)
    (id : String) :
    ∃ item rest, opening k index id c = .itemAdded index item :: rest ∧ item.id? = some id ∧
      item.category = k.category ∧ opened rest = [] := by
  obtain ⟨i, hopened, hid, hcategory⟩ := Projection.opened_opening hs index id
  have hhead : ∃ item rest, opening k index id c = .itemAdded index item :: rest := by
    by_cases ht : k = .text
    · subst ht
      obtain ⟨s, hc⟩ := BuilderKind.supports_text_iff.mp hs
      exact ⟨_, _, Projection.opening_text hc index id⟩
    · obtain ⟨_, _, _, -, h⟩ | ⟨_, _, _, -, h⟩ | ⟨_, -, h⟩ :=
        BuilderKind.opening_whole hs ht index id
      all_goals exact ⟨_, _, h⟩
  obtain ⟨item, rest, h⟩ := hhead
  rw [h] at hopened
  obtain ⟨rfl, hrest⟩ := List.cons.inj hopened
  exact ⟨item, rest, h, hid, hcategory, hrest⟩

theorem pulls (h : b.Backs c) : Pulls b s (b.pull s c) := by
  cases c with
  | pending bodies => exact pulls_pending h
  | fresh content =>
    rw [pull, unfold]
    cases hid : b.itemId with
    | some id =>
      refine pulls_pending ⟨Projection.opened_deltas _ _ _, fun _ => ?_⟩
      rw [hid]
      rfl
    | none =>
      by_cases hnegative : s.ids.layout.entropy < 0
      · simp only [Projection.draw_named, if_pos hnegative]
        exact .failed _
      · obtain ⟨item, rest, hopening, hitem, hcategory, hrest⟩ :=
          opening_cons h b.index (s.ids.named b.kind.category s.entropy)
        have hopened : opened [.itemAdded b.index item] = [item] := rfl
        have hnames : s.Names [.itemAdded b.index item]
            { s with number := s.number + 1, entropy := s.ids.after 1 s.entropy } := by
          refine ⟨rfl, ?_, rfl⟩
          rw [hopened]
          exact s.ids.named_single hitem hcategory
        simp only [Projection.draw_named, if_neg hnegative]
        show Pulls b s (.ok (pullPending _ _ (opening b.kind b.index _ content)))
        rw [hopening]
        refine .event rfl ?_ ⟨hrest, fun _ => rfl⟩ hnames
        rw [hid]
        exact .first hitem rfl

end ItemBuilder

/-! ### Events with their numbers -/

/-- Events of the item at an index, numbered from one on. -/
def Event.numbered (n index : Int) : List Event.Body → List Event
  | [] => []
  | body :: rest => .plain n (body.moveTo index) :: numbered (n + 1) index rest

namespace Event

theorem bodies_numbered (n index : Int) (bodies : List Body) :
    (numbered n index bodies).map Event.body = bodies.map (Body.moveTo index) := by
  induction bodies generalizing n with
  | nil => rfl
  | cons body rest ih => exact congrArg (body.moveTo index :: ·) (ih (n + 1))

end Event

theorem Sequence.stampAll_int (n index : Int) (bodies : List Event.Body) :
    Sequence.stampAll ⟨.int n⟩ (.int index) bodies =
      (.ok (Event.numbered n index bodies), ⟨.int (n + bodies.length)⟩) := by
  induction bodies generalizing n with
  | nil => simp [Sequence.stampAll, Event.numbered]
  | cons body rest ih =>
    simp only [Sequence.stampAll, Sequence.stamp_int, ih, List.length_cons]
    rw [show n + 1 + (rest.length : Int) = n + ((rest.length + 1 : Nat) : Int) by omega]
    rfl

end AgentGateway
