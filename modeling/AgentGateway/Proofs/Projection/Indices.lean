import AgentGateway.Proofs.Projection.Commitment
import AgentGateway.Proofs.Projection.Lifecycle

/-! The indices of output items.

An index is taken when an item is opened and comes back when it is done. `indices_dense`: up
to any event that a consumer is handed, items have been opened at 0, 1, 2 and so on and done
likewise, at most one is open, and the output holds the items that are done and at most one
more. In a run that ends well all are done, and the last snapshot has the `i`-th at position
`i`.

The invariant is `Tally`, which counts the items opened and done. Lives one after the other
have one (`Tally.lifecycles`), and so has what is told up to any event (`Tally.take`). -/
namespace AgentGateway.Projection

/-- The index that an event opens. -/
def openedIndex? : Event.Body → Option Int
  | .itemAdded index _ => some index
  | _ => none

/-- The index whose item an event says to be done. -/
def doneIndex? : Event.Body → Option Int
  | .itemDone index _ => some index
  | _ => none

def openedIndices (told : List Event.Body) : List Int := told.filterMap openedIndex?

def doneIndices (told : List Event.Body) : List Int := told.filterMap doneIndex?

/-- The indices whose items have been opened and are not done. -/
def stillOpen (told : List Event.Body) : List Int :=
  (openedIndices told).filter fun index => index ∉ doneIndices told

/-- The first indices. -/
def firstIndices (n : Nat) : List Int := (List.range n).map Int.ofNat

theorem firstIndices_succ (n : Nat) : firstIndices (n + 1) = firstIndices n ++ [(n : Int)] := by
  rw [firstIndices, List.range_succ, List.map_append]
  rfl

/-- The index of the item that is open. -/
def Account.openIndex? (a : Account) : Option Int :=
  (a.builder.filter fun b => !b.completed).map ItemBuilder.index

theorem Account.Closed.openIndex?_eq {a : Account} (h : a.Closed) : a.openIndex? = none := by
  unfold openIndex?
  cases hb : a.builder with
  | none => rfl
  | some b => simp [Option.filter, h b hb]

/-! ### Done items -/

/-- An event that no item is done with finishes none. -/
theorem finished_concat {told : List Event.Body} {body : Event.Body}
    (h : doneIndex? body = none) : finished (told ++ [body]) = finished told := by
  have hitem : bodyItem? body = none := by
    cases body with
    | itemDone => cases h
    | _ => rfl
  rw [finished, List.filterMap_append, List.filterMap_cons_none hitem]
  exact List.append_nil _

theorem mem_itemDone_concat {told : List Event.Body} {body : Event.Body} {index : Int}
    {item : Item} (h : doneIndex? body = none) :
    .itemDone index item ∈ told ++ [body] ↔ .itemDone index item ∈ told := by
  rw [List.mem_append, List.mem_singleton, or_iff_left]
  rintro rfl
  cases h

theorem getElem?_concat_eq_some {items : List Item} {last item : Item} {k : Nat} :
    (items ++ [last])[k]? = some item ↔ items[k]? = some item ∨ k = items.length ∧ last = item := by
  rw [List.getElem?_append]
  split
  · have hne : k ≠ items.length := Nat.ne_of_lt ‹_›
    simp [hne]
  · have hnone : items[k]? = none := List.getElem?_eq_none (Nat.le_of_not_lt ‹_›)
    have hzero : k - items.length = 0 ↔ k = items.length := by omega
    simp [hnone, List.getElem?_singleton, hzero]

/-! ### Counting items -/

/-- What opens and does items one after the other, each at the next index, with the number of
the items opened and of those done. -/
inductive Tally : List Event.Body → Nat → Nat → Prop where
  | nil : Tally [] 0 0
  | added {told : List Event.Body} {n : Nat} (item : Item) (h : Tally told n n) :
      Tally (told ++ [.itemAdded n item]) (n + 1) n
  | done {told : List Event.Body} {n : Nat} (item : Item) (h : Tally told (n + 1) n) :
      Tally (told ++ [.itemDone n item]) (n + 1) (n + 1)
  | aside {told : List Event.Body} {opened done : Nat} {body : Event.Body}
      (h : Tally told opened done) (hopened : openedIndex? body = none)
      (hdone : doneIndex? body = none) : Tally (told ++ [body]) opened done

namespace Tally
variable {told more : List Event.Body} {opened done n : Nat}

theorem bounds (h : Tally told opened done) : done ≤ opened ∧ opened ≤ done + 1 := by
  induction h <;> omega

theorem openedIndices_eq (h : Tally told opened done) :
    openedIndices told = firstIndices opened := by
  induction h with
  | nil => rfl
  | added item _ ih =>
    rw [firstIndices_succ, ← ih]
    exact List.filterMap_append
  | done item _ ih =>
    rw [← ih, openedIndices, List.filterMap_append]
    exact List.append_nil _
  | aside _ hopened _ ih =>
    rw [← ih, openedIndices, List.filterMap_append, List.filterMap_cons_none hopened]
    exact List.append_nil _

theorem doneIndices_eq (h : Tally told opened done) : doneIndices told = firstIndices done := by
  induction h with
  | nil => rfl
  | added item _ ih =>
    rw [← ih, doneIndices, List.filterMap_append]
    exact List.append_nil _
  | done item _ ih =>
    rw [firstIndices_succ, ← ih]
    exact List.filterMap_append
  | aside _ _ hdone ih =>
    rw [← ih, doneIndices, List.filterMap_append, List.filterMap_cons_none hdone]
    exact List.append_nil _

/-- Where as many are done as opened none is open. -/
theorem stillOpen_of_done (h : Tally told n n) : stillOpen told = [] := by
  rw [stillOpen, h.openedIndices_eq, h.doneIndices_eq]
  exact List.filter_eq_nil_iff.mpr fun index hindex => by simpa using hindex

/-- Where one more is opened than done the last one is open. -/
theorem stillOpen_of_added (h : Tally told (n + 1) n) : stillOpen told = [(n : Int)] := by
  have hbefore : (firstIndices n).filter (fun index => decide (index ∉ firstIndices n)) = [] :=
    List.filter_eq_nil_iff.mpr fun index hindex => by simpa using hindex
  have hlast : (n : Int) ∉ firstIndices n := by
    intro hmem
    obtain ⟨k, hk, hkn⟩ := List.mem_map.mp hmem
    have hlt := List.mem_range.mp hk
    have heq : k = n := Int.ofNat.inj hkn
    omega
  rw [stillOpen, h.openedIndices_eq, h.doneIndices_eq, firstIndices_succ, List.filter_append,
    hbefore, List.filter_cons_of_pos (by simpa using hlast)]
  rfl

theorem stillOpen_le (h : Tally told opened done) : (stillOpen told).length ≤ 1 := by
  obtain ⟨hle, hge⟩ := h.bounds
  obtain rfl | rfl : opened = done ∨ opened = done + 1 := by omega
  · rw [h.stillOpen_of_done]
    exact Nat.zero_le _
  · rw [h.stillOpen_of_added]
    exact Nat.le_refl _

/-- A done event has the item that is finished at its index. -/
theorem mem_itemDone (h : Tally told opened done) :
    (finished told).length = done ∧
      ∀ (index : Int) (item : Item), .itemDone index item ∈ told ↔
        ∃ k : Nat, index = k ∧ (finished told)[k]? = some item := by
  induction h with
  | nil => simp [finished]
  | @added told n item _ ih =>
    have hdone : doneIndex? (.itemAdded n item) = none := rfl
    simpa only [finished_concat hdone, mem_itemDone_concat hdone] using ih
  | @done told n item' _ ih =>
    obtain ⟨hlength, hmem⟩ := ih
    have hmore : finished (told ++ [.itemDone n item']) = finished told ++ [item'] :=
      List.filterMap_append
    refine ⟨by rw [hmore, List.length_append, hlength, List.length_singleton], ?_⟩
    intro index item
    have hlast : Event.Body.itemDone index item = .itemDone n item' ↔
        ∃ k : Nat, index = k ∧ k = n ∧ item' = item := by
      constructor
      · intro heq
        obtain ⟨rfl, rfl⟩ := Event.Body.itemDone.inj heq
        exact ⟨n, rfl, rfl, rfl⟩
      · rintro ⟨k, rfl, rfl, rfl⟩
        rfl
    rw [List.mem_append, hmem, List.mem_singleton, hmore, hlast, ← exists_or]
    simp only [getElem?_concat_eq_some, hlength, and_or_left]
  | @aside told _ _ body _ _ hdone ih =>
    simpa only [finished_concat hdone, mem_itemDone_concat hdone] using ih

/-- Up to any event there is a tally too. -/
theorem take (h : Tally told opened done) (k : Nat) :
    ∃ opened' done', Tally (told.take k) opened' done' := by
  have hsnoc {told : List Event.Body} {body : Event.Body} {opened done : Nat}
      (h : Tally (told ++ [body]) opened done)
      (ih : ∃ opened' done', Tally (told.take k) opened' done') :
      ∃ opened' done', Tally ((told ++ [body]).take k) opened' done' := by
    by_cases hk : k ≤ told.length
    · rwa [List.take_append_of_le_length hk]
    · rw [List.take_of_length_le (by rw [List.length_append, List.length_singleton]; omega)]
      exact ⟨_, _, h⟩
  induction h with
  | nil =>
    rw [List.take_nil]
    exact ⟨0, 0, .nil⟩
  | added item h ih => exact hsnoc (.added item h) ih
  | done item h ih => exact hsnoc (.done item h) ih
  | aside h hopened hdone ih => exact hsnoc (.aside h hopened hdone) ih

/-! ### Tallies of lives -/

theorem asides (h : Tally told opened done)
    (hmore : ∀ body ∈ more, openedIndex? body = none ∧ doneIndex? body = none) :
    Tally (told ++ more) opened done := by
  induction more generalizing told with
  | nil =>
    rw [List.append_nil]
    exact h
  | cons body rest ih =>
    obtain ⟨hopened, hdone⟩ := hmore body (List.mem_cons_self ..)
    rw [List.append_cons]
    exact ih (h.aside hopened hdone) fun b hb => hmore b (List.mem_cons_of_mem body hb)

theorem beginning (h : Tally told n n) (id : String) (chunks : List String) :
    Tally (told ++ Projection.beginning n id chunks) (n + 1) n := by
  have hopened : Tally (told ++ [.itemAdded n (.message id .inProgress [])]) (n + 1) n := h.added _
  have hbeginning : Projection.beginning n id chunks =
      [.itemAdded n (.message id .inProgress [])] ++
        (.partAdded id n 0 (.outputText "") :: chunks.map (.textDelta id n 0 · [])) := rfl
  rw [hbeginning, ← List.append_assoc]
  refine hopened.asides fun body hbody => ?_
  obtain rfl | hbody := List.mem_cons.mp hbody
  · exact ⟨rfl, rfl⟩
  · obtain ⟨s, -, rfl⟩ := List.mem_map.mp hbody
    exact ⟨rfl, rfl⟩

theorem lifecycle {id : String} (h : Tally told n n) (hlife : Lifecycle n id more) :
    Tally (told ++ more) (n + 1) (n + 1) := by
  have hends (life : List Event.Body) (item : Item) {first second : Event.Body}
      (h : Tally (told ++ life) (n + 1) n)
      (hfirst : openedIndex? first = none ∧ doneIndex? first = none)
      (hsecond : openedIndex? second = none ∧ doneIndex? second = none) :
      Tally (told ++ (life ++ [first, second, .itemDone n item])) (n + 1) (n + 1) := by
    have hdone := ((h.aside hfirst.1 hfirst.2).aside hsecond.1 hsecond.2).done item
    rwa [List.append_assoc, List.append_assoc, List.append_assoc] at hdone
  cases hlife with
  | text => exact hends _ _ (h.beginning id _) ⟨rfl, rfl⟩ ⟨rfl, rfl⟩
  | call => exact hends [_] _ (h.added _) ⟨rfl, rfl⟩ ⟨rfl, rfl⟩
  | result => exact hends [_] _ (h.added _) ⟨rfl, rfl⟩ ⟨rfl, rfl⟩
  | part => exact hends [_] _ (h.added _) ⟨rfl, rfl⟩ ⟨rfl, rfl⟩

theorem lifecycles {first index : Int} (h : Tally told n n) (hfirst : first = n)
    (hlives : Lifecycles first more index) :
    ∃ m : Nat, index = m ∧ Tally (told ++ more) m m := by
  induction hlives with
  | nil => exact ⟨n, hfirst, by rwa [List.append_nil]⟩
  | snoc _ last ih =>
    obtain ⟨m, rfl, hbefore⟩ := ih
    exact ⟨m + 1, rfl, by rw [← List.append_assoc]; exact hbefore.lifecycle last⟩

/-- What is open after lives and the beginning of one is the item of the open builder. -/
theorem progress {a : Account} (h : Tally told 0 0) (hp : Progress a more) :
    (∃ opened done, Tally (told ++ more) opened done) ∧
      stillOpen (told ++ more) = a.openIndex?.toList := by
  cases hp with
  | closed hclosed lives =>
    obtain ⟨m, -, hm⟩ := h.lifecycles rfl lives
    refine ⟨⟨m, m, hm⟩, hm.stillOpen_of_done.trans ?_⟩
    rw [hclosed.openIndex?_eq]
    rfl
  | @opened _ id chunks _ hb _ _ lives =>
    obtain ⟨m, rfl, hm⟩ := h.lifecycles rfl lives
    have hbeginning := hm.beginning id chunks
    rw [List.append_assoc] at hbeginning
    refine ⟨⟨m + 1, m, hbeginning⟩, hbeginning.stillOpen_of_added.trans ?_⟩
    rw [Account.openIndex?, hb]
    rfl

end Tally

/-! ### Whole runs -/

namespace Attended
variable (g : Setting) (voice : Voice)

theorem heralds_tally (ids : IdSource) : Tally (heralds g ids) 0 0 := by
  show Tally ([] ++ heralds g ids) 0 0
  exact Tally.nil.asides (by simp [heralds, openedIndex?, doneIndex?])

theorem project_tally (supply : Supply) (reason : Option Value) (cancelled : Bool)
    (source : List RunStep) :
    let run := project g voice (State.fresh supply reason cancelled) source
    ∃ opened done, Tally run.bodies opened done ∧ (run.failure = none → opened = done) := by
  intro run
  by_cases hends : run.failure = none
  · obtain ⟨told, a, kind, last, htale, -, hbodies, -⟩ := project_tale g voice hends
    obtain ⟨n, -, htally⟩ := (heralds_tally g supply.ids).lifecycles rfl
      htale.progress.closing
    exact ⟨n, n, hbodies ▸ htally.aside rfl rfl, fun _ => rfl⟩
  · obtain ⟨bs, told, a, last, htale, hbodies, ⟨-, rfl⟩ | ⟨hnone, -⟩⟩ :=
      project_told g voice supply reason cancelled source
    · obtain ⟨⟨opened, done, htally⟩, -⟩ := (heralds_tally g supply.ids).progress htale.progress
      rw [List.append_nil] at hbodies
      exact ⟨opened, done, hbodies ▸ htally, fun hnone => absurd hnone hends⟩
    · exact absurd hnone hends

end Attended

theorem Stretch.bodies_take (s : Stretch) (n : Nat) : ∃ k, (s.take n).bodies = s.bodies.take k := by
  unfold Stretch.take
  split
  · exact ⟨n - 1 + 1, by simp only [bodies, events, List.map_take]⟩
  · exact ⟨s.bodies.length, List.take_length.symm⟩

/-- **Up to any event** that a consumer is handed, and at the end however a run ends, items have
been opened and done at the first indices, at most one is open, and the output holds those that
are done and at most one more. **A run that ends well** has done all that it opened, and its
last event has the item that was done at an index at that position. -/
theorem indices_dense (g : Setting) (voice : Voice) (supply : Supply) (reason : Option Value)
    (cancelled : Bool) (source : List RunStep) :
    let run := Attended.project g voice (State.fresh supply reason cancelled) source
    (∀ n, let part := run.take n
      (∃ opened done, openedIndices part.bodies = firstIndices opened ∧
        doneIndices part.bodies = firstIndices done) ∧
      (stillOpen part.bodies).length ≤ 1 ∧
      doneItems part.events <+: part.state.output ∧
      part.state.output.length ≤ (doneItems part.events).length + 1) ∧
    (run.failure = none →
      doneIndices run.bodies = openedIndices run.bodies ∧
      ∃ kind last, run.bodies.getLast? = some (.envelope kind last) ∧
        (kind = .completed ∨ kind = .incomplete) ∧
        last.output = doneItems run.events ∧
        ∀ (index : Int) (item : Item), .itemDone index item ∈ run.bodies ↔
          ∃ k : Nat, index = k ∧ last.output[k]? = some item) := by
  intro run
  obtain ⟨opened, done, htally, hsettled⟩ :=
    Attended.project_tally g voice supply reason cancelled source
  have hcommits := Attended.project_commits g voice (State.fresh supply reason cancelled) source
  constructor
  · intro n part
    obtain ⟨k, hk⟩ := run.bodies_take n
    obtain ⟨opened', done', hpart⟩ := htally.take k
    rw [← hk] at hpart
    obtain ⟨hbehind, hlength⟩ := hcommits.take n
    exact ⟨⟨opened', done', hpart.openedIndices_eq, hpart.doneIndices_eq⟩, hpart.stillOpen_le,
      hbehind, hlength⟩
  · intro hends
    obtain rfl := hsettled hends
    obtain ⟨told, a, kind, last, -, hverdict, hbodies, haccount⟩ :=
      Attended.project_tale g voice hends
    have houtput : last.output = doneItems run.events :=
      calc last.output = a.closed.output := hverdict.output_eq
        _ = run.state.output := congrArg Account.output haccount.symm
        _ = doneItems run.events := hcommits.final
    have hlast : run.bodies.getLast? = some (.envelope kind last) := by
      rw [show run.bodies = _ from hbodies, List.getLast?_concat]
    have hdone : doneIndices run.bodies = openedIndices run.bodies :=
      htally.doneIndices_eq.trans htally.openedIndices_eq.symm
    refine ⟨hdone, kind, last, hlast, hverdict.kind_eq, houtput, ?_⟩
    rw [houtput, doneItems_eq]
    exact htally.mem_itemDone.2

theorem overheard_indices :
    overheard.failure = none ∧
      doneIndices overheard.bodies = openedIndices overheard.bodies ∧
      ∃ kind last, overheard.bodies.getLast? = some (.envelope kind last) ∧
        (kind = .completed ∨ kind = .incomplete) ∧
        last.output = doneItems overheard.events ∧
        ∀ (index : Int) (item : Item), .itemDone index item ∈ overheard.bodies ↔
          ∃ k : Nat, index = k ∧ last.output[k]? = some item :=
  ⟨rfl, (indices_dense talk _ talkSupply none false talkSteps).2 rfl⟩

end AgentGateway.Projection
