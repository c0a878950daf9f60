import AgentGateway.Item.Conversion
import AgentGateway.Proofs.Identifier.Drawing

/-! What output items convey.

A content becomes a finished item by itself: a call, a result, or a message of the parts that
it is shown as. Items *convey* some contents when they have the same calls and results, and the
same parts one after the other, as the contents would have by themselves; how parts are gathered
in messages, and where calls stand among messages, is left open.

`ofMessages_conveys`: the items of materialized messages convey the messages' contents,
where their identifiers can be drawn and all contents be spelled. -/
namespace AgentGateway

/-! ### What becomes of a content -/

/-- An item without its identifier. -/
def Item.sansId (i : Item) : Item :=
  match i.body with
  | .message _ status content => { i with body := .message "" status content }
  | .functionCall arguments callId name _ status =>
    { i with body := .functionCall arguments callId name none status }
  | .functionOutput _ callId output status =>
    { i with body := .functionOutput "" callId output status }

namespace Item

/-- The identifier of an item; only a call may have none. -/
def id? (i : Item) : Option String :=
  match i.body with
  | .message id .. | .functionOutput id .. => some id
  | .functionCall _ _ _ id _ => id

/-- What the identifiers of items of a type begin with. -/
def category (i : Item) : String :=
  match i.body with
  | .message .. => "msg"
  | .functionCall .. => "func"
  | .functionOutput .. => "funcout"

end Item

namespace Content

/-- The part that a content is shown as in an answer, if there is one. -/
def shown (c : Content) : List Part :=
  match Part.ofContent .output c with
  | .ok part => part.toList
  | .error _ => []

/-- The finished item that a content becomes by itself, without an identifier. -/
def item (c : Content) : Item :=
  match c.body with
  | .functionCall callId name arguments =>
    ⟨.functionCall (serializeArguments arguments) callId name none (some .completed), []⟩
  | .functionResult callId result failure =>
    .functionOutput "" .completed callId (resultText result failure)
  | _ => .message "" .completed c.shown

theorem item_text {c : Content} {s : String} (hc : c.body = .text s) :
    c.item = .message "" .completed [.outputText s] := by
  simp only [item, shown, Part.ofContent, hc]
  rfl

theorem not_usage_of_text {c : Content} {s : String} (hc : c.body = .text s)
    (details : Option Usage) : c.body ≠ .usage details := by
  rw [hc]
  exact Content.Body.noConfusion

end Content

/-! ### What an item conveys -/

namespace Item

def parts (i : Item) : List Part :=
  match i.body with
  | .message _ _ content => content
  | _ => []

/-- A call or a result, without its identifier. -/
def call? (i : Item) : Option Item :=
  match i.body with
  | .message .. => none
  | _ => some i.sansId

/-- Whether an item that is no call is a finished message with parts and nothing else. -/
def Plain (i : Item) : Prop :=
  i.call? = none → i.parts ≠ [] ∧ ∃ id, i = .message id .completed i.parts

theorem parts_sansId (i : Item) : i.sansId.parts = i.parts := by
  obtain ⟨body, extra⟩ := i
  cases body <;> rfl

theorem call?_sansId (i : Item) : i.sansId.call? = i.call? := by
  obtain ⟨body, extra⟩ := i
  cases body <;> rfl

theorem parts_of_call {i : Item} (h : i.call? ≠ none) : i.parts = [] := by
  obtain ⟨body, extra⟩ := i
  cases body with
  | message => exact absurd rfl h
  | _ => rfl

end Item

namespace Content

/-- Nothing becomes of a content. -/
def Silent (c : Content) : Prop := c.item.call? = none ∧ c.item.parts = []

theorem shown_of_isImage {c : Content} (h : c.isImage = true) : c.shown ≠ [] := by
  obtain ⟨properties, body⟩ := c
  cases body with
  | data | uri =>
    rw [shown]
    simp only [Part.ofContent, h, if_true]
    exact List.cons_ne_nil _ _
  | _ => cases h

/-- A content of which nothing becomes has nothing to spell. -/
theorem limit?_of_silent {c : Content} (h : c.Silent) : c.limit? = none := by
  obtain ⟨properties, body⟩ := c
  obtain ⟨hcall, hparts⟩ := h
  cases body with
  | functionCall | functionResult => cases hcall
  | data | uri =>
    refine if_neg fun himage => ?_
    have hshown := shown_of_isImage himage
    exact hshown hparts
  | _ => rfl

theorem ofExcept_spelled {c : Content} (h : c.limit? = none) (e : Entropy) :
    Drawing.ofExcept c.spelled e = (.ok (), e) := by
  rw [Drawing.ofExcept, spelled, h]

theorem ofExcept_limited {c : Content} {l : Limit} (h : c.limit? = some l) (e : Entropy) :
    Drawing.ofExcept c.spelled e = (.error (.ofLimit l), e) := by
  rw [Drawing.ofExcept, spelled, h]

end Content

namespace Item

/-- An item that is what becomes of a content, but for its identifier. -/
theorem plain_of_sansId {i : Item} {c : Content} (h : i.sansId = c.item) (hloud : ¬c.Silent) :
    i.Plain := by
  intro hnone
  have hparts : i.parts = c.item.parts := by rw [← parts_sansId, h]
  have hcall : c.item.call? = none := by rw [← h, call?_sansId, hnone]
  refine ⟨fun hnil => hloud ⟨hcall, by rw [← hparts, hnil]⟩, ?_⟩
  obtain ⟨body, extra⟩ := i
  cases body with
  | message id status content =>
    refine ⟨id, ?_⟩
    unfold Content.item at h
    split at h
    · cases h
    · cases h
    · cases h
      rfl
  | _ => cases hnone

structure Conveys (items : List Item) (cs : List Content) : Prop where
  calls : items.filterMap call? = cs.filterMap fun c => c.item.call?
  parts : items.flatMap parts = cs.flatMap fun c => c.item.parts
  plain : ∀ i ∈ items, i.Plain

theorem Conveys.append {items more : List Item} {cs ds : List Content} (h : Conveys items cs)
    (h' : Conveys more ds) : Conveys (items ++ more) (cs ++ ds) where
  calls := by rw [List.filterMap_append, List.filterMap_append, h.calls, h'.calls]
  parts := by rw [List.flatMap_append, List.flatMap_append, h.parts, h'.parts]
  plain i hi := (List.mem_append.mp hi).elim (h.plain i) (h'.plain i)

/-! ### The items of a message -/

variable {ids : IdSource}

theorem ofContent_output (c : Content) : ∃ part, Part.ofContent .output c = .ok part := by
  obtain ⟨properties, body⟩ := c
  cases body with
  | data =>
    simp only [Part.ofContent]
    split
    · exact ⟨_, rfl⟩
    · split <;> exact ⟨_, rfl⟩
  | _ => exact ⟨_, rfl⟩

/-- What a content of a message adds to its items and parts. -/
theorem collect_cons (ids : IdSource) (c : Content) (rest : List Content) :
    (∃ category, ∃ make : String → Item, (∀ id, (make id).sansId = c.item) ∧
        (∀ id, (make id).id? = some id ∧ (make id).category = Identifier.label (some category)) ∧
        c.item.call? = some c.item ∧
        collect ids (c :: rest) = do
          let id ← ids.generate (some category)
          Drawing.ofExcept c.spelled
          let (items, parts) ← collect ids rest
          return (make id :: items, parts)) ∨
      (c.item.call? = none ∧
        collect ids (c :: rest) = do
          Drawing.ofExcept c.spelled
          let (items, parts) ← collect ids rest
          return (items, c.item.parts ++ parts)) := by
  obtain ⟨properties, body⟩ := c
  cases body with
  | functionCall callId name arguments =>
    exact .inl ⟨"func", ofCall callId name arguments, fun _ => rfl, fun _ => ⟨rfl, rfl⟩, rfl, rfl⟩
  | functionResult callId result failure =>
    exact .inl ⟨"funcout", ofResult callId result failure, fun _ => rfl, fun _ => ⟨rfl, rfl⟩, rfl,
      rfl⟩
  | data uri mediaType name =>
    refine .inr ⟨rfl, ?_⟩
    obtain ⟨part, hpart⟩ := ofContent_output ⟨properties, .data uri mediaType name⟩
    simp only [collect, Content.item, Content.shown, hpart]
    rfl
  | _ => exact .inr ⟨rfl, rfl⟩

theorem call?_of_sansId {i : Item} {c : Content} (h : i.sansId = c.item) (hc : c.item.call? = some c.item) :
    i.call? = some c.item := by
  rw [← call?_sansId, h, hc]

/-- The items and parts of contents that can be spelled and whose calls can be named, if they have
any. -/
theorem collect_conveys (cs : List Content) (e : Entropy)
    (h : 0 ≤ ids.layout.entropy ∨ ∀ c ∈ cs, c.item.call? = none) (hl : ∀ c ∈ cs, c.limit? = none) :
    ∃ items e', collect ids cs e = (.ok (items, cs.flatMap fun c => c.item.parts), e') ∧
      (items.filterMap call? = cs.filterMap fun c => c.item.call?) ∧ ∀ i ∈ items, i.call? ≠ none := by
  induction cs generalizing e with
  | nil => exact ⟨[], e, rfl, rfl, by simp⟩
  | cons c rest ih =>
    have hnames := h.imp_right fun hnone c' hc' => hnone c' (List.mem_cons_of_mem c hc')
    obtain ⟨hc, hrest⟩ := List.forall_mem_cons.mp hl
    have hspelled := Content.ofExcept_spelled hc
    obtain ⟨category, make, hmake, -, hcall, hcollect⟩ | ⟨hnone, hcollect⟩ :=
      collect_cons ids c rest
    · have hdrawable : 0 ≤ ids.layout.entropy := h.elim id fun hnone => by
        rw [hnone c (List.mem_cons_self ..)] at hcall
        cases hcall
      obtain ⟨id, e₁, hdrawn⟩ := ids.generate_of_drawable (some category) e hdrawable
      obtain ⟨items, e₂, hitems, hcalls, hall⟩ := ih e₁ hnames hrest
      have hmade := call?_of_sansId (hmake id) hcall
      refine ⟨make id :: items, e₂, ?_, ?_, ?_⟩
      · have hparts : c.item.parts = [] := parts_of_call (by rw [hcall]; simp)
        rw [hcollect, Drawing.bind_of_ok hdrawn, Drawing.bind_of_ok (hspelled e₁),
          Drawing.bind_of_ok hitems, List.flatMap_cons, hparts, List.nil_append]
        rfl
      · simp only [List.filterMap_cons, hmade, hcall, hcalls]
      · intro i hi
        obtain rfl | hi := List.mem_cons.mp hi
        · rw [hmade]
          simp
        · exact hall i hi
    · obtain ⟨items, e₁, hitems, hcalls, hall⟩ := ih e hnames hrest
      refine ⟨items, e₁, ?_, ?_, hall⟩
      · rw [hcollect, Drawing.bind_of_ok (hspelled e), Drawing.bind_of_ok hitems, List.flatMap_cons]
        rfl
      · simp only [List.filterMap_cons, hnone, hcalls]

/-- A content that cannot be spelled ends the collection, as does a call that cannot be named. -/
theorem collect_fails (cs : List Content) (e : Entropy) (h : ids.layout.entropy < 0)
    (hex : ∃ c ∈ cs, c.item.call? ≠ none ∨ c.limit? ≠ none) :
    ∃ f e', collect ids cs e = (.error f, e') := by
  induction cs generalizing e with
  | nil =>
    obtain ⟨c, hc, -⟩ := hex
    cases hc
  | cons c rest ih =>
    obtain ⟨category, make, -, -, -, hcollect⟩ | ⟨hnone, hcollect⟩ := collect_cons ids c rest
    · have hdrawn := ids.generate_of_negative (some category) e h
      exact ⟨_, e, by rw [hcollect, Drawing.bind_of_error hdrawn]⟩
    · rw [hcollect]
      cases hc : c.limit? with
      | some l =>
        exact ⟨_, e, Drawing.bind_of_error (Content.ofExcept_limited hc e) _⟩
      | none =>
        rw [Drawing.bind_of_ok (Content.ofExcept_spelled hc e)]
        obtain ⟨c', hc', hcause⟩ := hex
        obtain rfl | hc' := List.mem_cons.mp hc'
        · exact absurd hcause (by simp [hnone, hc])
        · obtain ⟨f, e', hrest⟩ := ih e ⟨c', hc', hcause⟩
          exact ⟨f, e', Drawing.bind_of_error hrest _⟩

/-- Where items can be named, the first content that cannot be spelled ends the collection. -/
theorem collect_limited (cs : List Content) (e : Entropy) (h : 0 ≤ ids.layout.entropy) {l : Limit}
    (hl : cs.findSome? Content.limit? = some l) :
    ∃ e', collect ids cs e = (.error (.ofLimit l), e') := by
  induction cs generalizing e with
  | nil => cases hl
  | cons c rest ih =>
    -- What a content does once it is its turn to be spelled.
    have hturn (e : Entropy) (next : Drawing (List Item × List Part))
        (hnext : c.limit? = none → ∃ e', next e = (.error (.ofLimit l), e')) :
        ∃ e', (do Drawing.ofExcept c.spelled; next) e = (.error (.ofLimit l), e') := by
      cases hc : c.limit? with
      | none =>
        rw [Drawing.bind_of_ok (Content.ofExcept_spelled hc e)]
        exact hnext hc
      | some l' =>
        rw [List.findSome?_cons, hc] at hl
        obtain rfl := Option.some.inj hl
        exact ⟨e, Drawing.bind_of_error (Content.ofExcept_limited hc e) _⟩
    have hrest (e : Entropy) (hc : c.limit? = none) :
        ∃ e', collect ids rest e = (.error (.ofLimit l), e') :=
      ih e (by rwa [List.findSome?_cons, hc] at hl)
    obtain ⟨category, make, -, -, -, hcollect⟩ | ⟨-, hcollect⟩ := collect_cons ids c rest
    · obtain ⟨id, e₁, hdrawn⟩ := ids.generate_of_drawable (some category) e h
      rw [hcollect, Drawing.bind_of_ok hdrawn]
      refine hturn e₁ _ fun hc => ?_
      obtain ⟨e₂, hfails⟩ := hrest e₁ hc
      exact ⟨e₂, Drawing.bind_of_error hfails _⟩
    · rw [hcollect]
      refine hturn e _ fun hc => ?_
      obtain ⟨e₁, hfails⟩ := hrest e hc
      exact ⟨e₁, Drawing.bind_of_error hfails _⟩

theorem ofMessage_conveys (m : Message) (e : Entropy)
    (h : 0 ≤ ids.layout.entropy ∨ ∀ c ∈ m.contents, c.Silent)
    (hl : ∀ c ∈ m.contents, c.limit? = none) :
    ∃ items e', ofMessage ids m e = (.ok items, e') ∧ Conveys items m.contents := by
  obtain ⟨items, e₁, hitems, hcalls, hall⟩ :=
    collect_conveys m.contents e (h.imp_right fun hs c hc => (hs c hc).1) hl
  have hnoparts : items.flatMap parts = [] :=
    List.flatMap_eq_nil_iff.mpr fun i hi => parts_of_call (hall i hi)
  have hplain : ∀ i ∈ items, i.Plain := fun i hi hnone => absurd hnone (hall i hi)
  generalize hparts : (m.contents.flatMap fun c => c.item.parts) = ps at hitems
  cases ps with
  | nil =>
    refine ⟨items, e₁, ?_, ⟨hcalls, by rw [hnoparts, hparts], hplain⟩⟩
    rw [ofMessage, Drawing.bind_of_ok hitems]
    rfl
  | cons part more =>
    have hdrawable : 0 ≤ ids.layout.entropy := h.elim id fun hs => by
      rw [List.flatMap_eq_nil_iff.mpr fun c hc => (hs c hc).2] at hparts
      cases hparts
    obtain ⟨id, e₂, hdrawn⟩ : ∃ id e₂, ids.messageId e₁ = (.ok id, e₂) :=
      ids.generate_of_drawable _ e₁ hdrawable
    refine ⟨items ++ [message id .completed (part :: more)], e₂, ?_, ?_, ?_, ?_⟩
    · rw [ofMessage, Drawing.bind_of_ok hitems]
      show (ids.messageId >>= fun id => pure (items ++ [message id .completed (part :: more)])) e₁ = _
      rw [Drawing.bind_of_ok hdrawn]
      rfl
    · rw [List.filterMap_append, hcalls]
      exact List.append_nil _
    · rw [List.flatMap_append, hnoparts, hparts]
      simp [parts, message]
    · intro i hi
      obtain hi | hi := List.mem_append.mp hi
      · exact hplain i hi
      · rw [List.mem_singleton.mp hi]
        exact fun _ => ⟨List.cons_ne_nil _ _, id, rfl⟩

theorem ofMessage_fails (m : Message) (e : Entropy) (h : ids.layout.entropy < 0)
    (hex : ∃ c ∈ m.contents, ¬c.Silent) : ∃ f e', ofMessage ids m e = (.error f, e') := by
  by_cases hcause : ∃ c ∈ m.contents, c.item.call? ≠ none ∨ c.limit? ≠ none
  · obtain ⟨f, e', hfails⟩ := collect_fails m.contents e h hcause
    exact ⟨f, e', by rw [ofMessage, Drawing.bind_of_error hfails]⟩
  · have hquiet : ∀ c ∈ m.contents, c.item.call? = none ∧ c.limit? = none := by
      simpa only [not_exists, not_and, not_or, Decidable.not_not] using hcause
    obtain ⟨items, e₁, hitems, -⟩ := collect_conveys m.contents e
      (.inr fun c hc => (hquiet c hc).1) fun c hc => (hquiet c hc).2
    have hparts : (m.contents.flatMap fun c => c.item.parts).isEmpty = false := by
      obtain ⟨c, hc, hloud⟩ := hex
      have hne : (m.contents.flatMap fun c => c.item.parts) ≠ [] := fun hnil =>
        hloud ⟨(hquiet c hc).1, List.flatMap_eq_nil_iff.mp hnil c hc⟩
      simpa using hne
    have hdrawn : ids.messageId e₁ = (.error (.misuse .negativeLength), e₁) :=
      ids.generate_of_negative _ e₁ h
    refine ⟨.misuse .negativeLength, e₁, ?_⟩
    rw [ofMessage, Drawing.bind_of_ok hitems]
    simp only [hparts, Bool.false_eq_true, if_false]
    exact Drawing.bind_of_error hdrawn _

/-- **The items of messages** convey the messages' contents, where all can be spelled and the items
be named. -/
theorem ofMessages_conveys (ms : List Message) (e : Entropy)
    (h : 0 ≤ ids.layout.entropy ∨ ∀ c ∈ ms.flatMap Message.contents, c.Silent)
    (hl : ∀ c ∈ ms.flatMap Message.contents, c.limit? = none) :
    ∃ items e', ofMessages ids ms e = (.ok items, e') ∧
      Conveys items (ms.flatMap Message.contents) := by
  induction ms generalizing e with
  | nil => exact ⟨[], e, rfl, rfl, rfl, by simp⟩
  | cons m rest ih =>
    rw [List.flatMap_cons] at h hl ⊢
    obtain ⟨hhead, htail⟩ := List.forall_mem_append.mp hl
    obtain ⟨items, e₁, hitems, hconveys⟩ := ofMessage_conveys m e
      (h.imp_right fun hs c hc => hs c (List.mem_append_left _ hc)) hhead
    obtain ⟨more, e₂, hmore, hrest⟩ := ih e₁
      (h.imp_right fun hs c hc => hs c (List.mem_append_right _ hc)) htail
    refine ⟨items ++ more, e₂, ?_, hconveys.append hrest⟩
    rw [ofMessages, Drawing.bind_of_ok hitems, Drawing.bind_of_ok hmore]
    rfl

/-- Where items can be named, the first content that cannot be spelled is why there are none. -/
theorem ofMessages_limited (ms : List Message) (e : Entropy) (h : 0 ≤ ids.layout.entropy)
    {l : Limit} (hl : (ms.flatMap Message.contents).findSome? Content.limit? = some l) :
    ∃ e', ofMessages ids ms e = (.error (.ofLimit l), e') := by
  induction ms generalizing e with
  | nil => cases hl
  | cons m rest ih =>
    rw [List.flatMap_cons, List.findSome?_append] at hl
    cases hhead : m.contents.findSome? Content.limit? with
    | some l' =>
      rw [hhead] at hl
      obtain rfl := Option.some.inj hl
      obtain ⟨e', hfails⟩ := collect_limited m.contents e h hhead
      exact ⟨e', by rw [ofMessages, ofMessage, Drawing.bind_of_error (Drawing.bind_of_error hfails _)]⟩
    | none =>
      rw [hhead, Option.none_or] at hl
      obtain ⟨items, e₁, hitems, -⟩ :=
        ofMessage_conveys m e (.inl h) (List.findSome?_eq_none_iff.mp hhead)
      obtain ⟨e', hfails⟩ := ih e₁ hl
      exact ⟨e', by rw [ofMessages, Drawing.bind_of_ok hitems, Drawing.bind_of_error hfails]⟩

theorem ofMessages_fails (ms : List Message) (e : Entropy) (h : ids.layout.entropy < 0)
    (hex : ∃ c ∈ ms.flatMap Message.contents, ¬c.Silent) :
    ∃ f e', ofMessages ids ms e = (.error f, e') := by
  induction ms generalizing e with
  | nil =>
    obtain ⟨c, hc, -⟩ := hex
    cases hc
  | cons m rest ih =>
    by_cases hhead : ∃ c ∈ m.contents, ¬c.Silent
    · obtain ⟨f, e', hfails⟩ := ofMessage_fails m e h hhead
      exact ⟨f, e', by rw [ofMessages, Drawing.bind_of_error hfails]⟩
    · have hsilent : ∀ c ∈ m.contents, c.Silent := fun c hc =>
        Classical.byContradiction fun hloud => hhead ⟨c, hc, hloud⟩
      obtain ⟨items, e₁, hitems, -⟩ := ofMessage_conveys m e (.inr hsilent)
        fun c hc => Content.limit?_of_silent (hsilent c hc)
      obtain ⟨c, hc, hloud⟩ := hex
      obtain hc | hc := List.mem_append.mp hc
      · exact absurd (hsilent c hc) hloud
      · obtain ⟨f, e', hrest⟩ := ih e₁ ⟨c, hc, hloud⟩
        exact ⟨f, e', by rw [ofMessages, Drawing.bind_of_ok hitems, Drawing.bind_of_error hrest]⟩

end Item

/-! ### Nothing of unknown shape -/

/-- A content becomes a part of which nothing is of unknown shape. -/
theorem Part.loose_ofContent {c : Content} {part : Part}
    (h : Part.ofContent .output c = .ok (some part)) : part.loose = [] := by
  obtain ⟨properties, body⟩ := c
  cases body with
  | data uri mediaType name =>
    simp only [ofContent] at h
    split at h
    · cases h
      rfl
    · split at h <;> cases h <;> rfl
  | uri uri mediaType =>
    simp only [ofContent] at h
    split at h
    · cases h
      rfl
    · cases h
  | text | reasoning | error | hostedFile =>
    cases h
    rfl
  | functionCall | functionResult | usage => cases h

theorem Content.loose_parts (c : Content) : ∀ part ∈ c.item.parts, part.loose = [] := by
  have hshown : ∀ part ∈ c.shown, part.loose = [] := by
    obtain ⟨shown, hshown⟩ := Item.ofContent_output c
    intro part hpart
    simp only [Content.shown, hshown, Option.mem_toList] at hpart
    exact Part.loose_ofContent (hpart ▸ hshown)
  unfold item
  split
  · simp [Item.parts]
  · simp [Item.parts, Item.functionOutput]
  · exact hshown

namespace Item

/-- Items that convey contents have no parts of unknown shape. -/
theorem Conveys.loose {items : List Item} {cs : List Content} (h : Conveys items cs) :
    ∀ i ∈ items, i.loose = [] := by
  intro i hi
  cases hcall : i.call? with
  | none =>
    obtain ⟨-, id, hmessage⟩ := h.plain i hi hcall
    have hparts : ∀ part ∈ i.parts, part.loose = [] := by
      intro part hpart
      have hmem : part ∈ items.flatMap Item.parts := List.mem_flatMap_of_mem hi hpart
      rw [h.parts] at hmem
      obtain ⟨c, -, hc⟩ := List.mem_flatMap.mp hmem
      exact c.loose_parts part hc
    rw [hmessage]
    exact (List.append_nil _).trans (List.flatMap_eq_nil_iff.mpr hparts)
  | some j =>
    have hmem : j ∈ items.filterMap call? := List.mem_filterMap.mpr ⟨i, hi, hcall⟩
    rw [h.calls] at hmem
    obtain ⟨c, -, hc⟩ := List.mem_filterMap.mp hmem
    have hextra : i.extra = j.extra := by
      obtain ⟨body, extra⟩ := i
      cases body <;> cases hcall <;> rfl
    have hnone : j.extra = [] := by
      unfold Content.item at hc
      split at hc <;> cases hc <;> rfl
    obtain ⟨body, extra⟩ := i
    obtain rfl : extra = [] := hextra.trans hnone
    cases body with
    | message => cases hcall
    | functionCall | functionOutput => rfl

end Item
end AgentGateway
