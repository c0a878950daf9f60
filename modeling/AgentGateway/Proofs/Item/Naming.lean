import AgentGateway.Proofs.Item.Conveying

/-! How output items are named.

Items are *named* from some characters when the first has the first block of them in its
identifier, the second the next block, and so on, each behind its category and in front of the
partition key. Items named one after the other are named together (`Named.append`), so what names
the items of a run is said once for the pieces that it is put together from.

Two items with one identifier have the same category and the same characters
(`Named.block_eq`). -/
namespace AgentGateway

/-- What an item has in common with its namesakes: its identifier and its category. -/
def Item.tag (i : Item) : Option String × String := (i.id?, i.category)

namespace IdSource

/-- The items have the identifiers of their categories, one block of characters for each. -/
def Named (ids : IdSource) (e : Entropy) (items : List Item) : Prop :=
  items.map Item.id? = (ids.names (items.map Item.category) e).map some

variable {ids : IdSource} {e : Entropy} {items more : List Item}

theorem named_nil (ids : IdSource) (e : Entropy) : ids.Named e [] := rfl

theorem named_single {i : Item} {label : String} (hid : i.id? = some (ids.named label e))
    (hcategory : i.category = label) : ids.Named e [i] := by
  simp [Named, names, hid, hcategory]

theorem Named.append (h : ids.Named e items) (hmore : ids.Named (ids.after items.length e) more) :
    ids.Named e (items ++ more) := by
  unfold Named at h hmore ⊢
  rw [List.map_append, List.map_append, names_append, List.map_append, h, hmore, List.length_map]

theorem Named.congr (h : ids.Named e items) (hsame : more.map Item.tag = items.map Item.tag) :
    ids.Named e more := by
  have hids := congrArg (List.map Prod.fst) hsame
  have hcategories := congrArg (List.map Prod.snd) hsame
  simp only [List.map_map] at hids hcategories
  exact hids.trans (h.trans (congrArg (fun labels => (ids.names labels e).map some) hcategories.symm))

/-! ### One item's identifier -/

theorem Named.getElem (h : ids.Named e items) {n : Nat} (hn : n < items.length) :
    items[n].id? = some (ids.named items[n].category (ids.after n e)) := by
  have hlist := congrArg (·[n]?) h
  simpa [names, hn] using hlist

/-- An identifier tells its category and its characters. -/
theorem named_inj {a b : String} {e e' : Entropy} (h : ids.named a e = ids.named b e') :
    a = b ∧ e.peek ids.layout.entropy.toNat = e'.peek ids.layout.entropy.toNat := by
  have hchars := congrArg String.toList h
  simp only [named, toString, String.toList_append, String.toList_ofList] at hchars
  have hbodies := List.append_cancel_right hchars
  have hlengths : (e.peek ids.layout.entropy.toNat).length =
      (e'.peek ids.layout.entropy.toNat).length := by
    rw [Entropy.length_peek, Entropy.length_peek]
  obtain ⟨hlabels, hdrawn⟩ := List.append_inj' hbodies hlengths
  exact ⟨String.toList_inj.mp (List.append_cancel_right hlabels), hdrawn⟩

/-- Two items with one identifier have the same category, and the same characters were drawn
for both. -/
theorem Named.block_eq (h : ids.Named e items) {m n : Nat} (hm : m < items.length)
    (hn : n < items.length) (hsame : items[m].id? = items[n].id?) :
    items[m].category = items[n].category ∧
      (ids.after m e).peek ids.layout.entropy.toNat =
        (ids.after n e).peek ids.layout.entropy.toNat := by
  rw [h.getElem hm, h.getElem hn] at hsame
  exact named_inj (Option.some.inj hsame)

end IdSource

/-! ### The items of materialized messages -/

namespace Item
variable {ids : IdSource} (h : 0 ≤ ids.layout.entropy)
include h

/-- Calls and results are named in their order. -/
theorem collect_named (cs : List Content) (hl : ∀ c ∈ cs, c.limit? = none) (e : Entropy) :
    ∃ items parts, collect ids cs e = (.ok (items, parts), ids.after items.length e) ∧
      ids.Named e items := by
  induction cs generalizing e with
  | nil => exact ⟨[], [], by rw [List.length_nil, ids.after_zero]; rfl, ids.named_nil e⟩
  | cons c rest ih =>
    obtain ⟨hc, hrest⟩ := List.forall_mem_cons.mp hl
    have hspelled := Content.ofExcept_spelled hc
    obtain ⟨category, make, -, hmake, -, hcollect⟩ | ⟨-, hcollect⟩ := collect_cons ids c rest
    · have hdrawn := ids.generate_eq (some category) e h
      obtain ⟨items, parts, hitems, hnamed⟩ := ih hrest (ids.after 1 e)
      obtain ⟨hid, hcategory⟩ := hmake (ids.named (Identifier.label (some category)) e)
      refine ⟨make (ids.named (Identifier.label (some category)) e) :: items, parts, ?_, ?_⟩
      · rw [hcollect, Drawing.bind_of_ok hdrawn, Drawing.bind_of_ok (hspelled _),
          Drawing.bind_of_ok hitems, ids.after_after, List.length_cons, Nat.add_comm 1]
        rfl
      · exact (ids.named_single hid hcategory).append hnamed
    · obtain ⟨items, parts, hitems, hnamed⟩ := ih hrest e
      refine ⟨items, c.item.parts ++ parts, ?_, hnamed⟩
      rw [hcollect, Drawing.bind_of_ok (hspelled e), Drawing.bind_of_ok hitems]
      rfl

/-- The message of a message's parts is named after its calls. -/
theorem ofMessage_named (m : Message) (hl : ∀ c ∈ m.contents, c.limit? = none) (e : Entropy) :
    ∃ items, ofMessage ids m e = (.ok items, ids.after items.length e) ∧ ids.Named e items := by
  obtain ⟨items, parts, hitems, hnamed⟩ := collect_named h m.contents hl e
  cases parts with
  | nil =>
    refine ⟨items, ?_, hnamed⟩
    rw [ofMessage, Drawing.bind_of_ok hitems]
    rfl
  | cons part more =>
    have hdrawn : ids.messageId (ids.after items.length e) = _ :=
      ids.generate_eq (some "msg") (ids.after items.length e) h
    have hlast : ids.Named (ids.after items.length e)
        [message (ids.named "msg" (ids.after items.length e)) .completed (part :: more)] :=
      ids.named_single rfl rfl
    refine ⟨_, ?_, hnamed.append hlast⟩
    rw [ofMessage, Drawing.bind_of_ok hitems, List.length_append, List.length_singleton,
      ← ids.after_after]
    show (ids.messageId >>= fun id => pure (items ++ [message id .completed (part :: more)])) _ = _
    rw [Drawing.bind_of_ok hdrawn]
    rfl

/-- **The items of messages are named in the order of the output.** -/
theorem ofMessages_named (ms : List Message) (hl : ∀ c ∈ ms.flatMap Message.contents, c.limit? = none)
    (e : Entropy) :
    ∃ items, ofMessages ids ms e = (.ok items, ids.after items.length e) ∧ ids.Named e items := by
  induction ms generalizing e with
  | nil => exact ⟨[], by rw [List.length_nil, ids.after_zero]; rfl, ids.named_nil e⟩
  | cons m rest ih =>
    rw [List.flatMap_cons] at hl
    obtain ⟨hhead, htail⟩ := List.forall_mem_append.mp hl
    obtain ⟨items, hitems, hnamed⟩ := ofMessage_named h m hhead e
    obtain ⟨more, hmore, hrest⟩ := ih htail (ids.after items.length e)
    refine ⟨items ++ more, ?_, hnamed.append hrest⟩
    rw [ofMessages, Drawing.bind_of_ok hitems, Drawing.bind_of_ok hmore, ids.after_after,
      List.length_append]
    rfl

end Item
end AgentGateway
