import AgentGateway.Execution
import AgentGateway.Proofs.Identifier.Drawing
import AgentGateway.Proofs.Text.Encoding

/-! When a request has a source of identifiers.

All identifiers of a response share the partition key of its conversation. A conversation's
identifier that was made here can be read back (`fresh_readable`), so only one that a request
supplies can be without a key: `ofRequest_of_readable` and `ofRequest_of_unreadable` are the two
outcomes, where neither length is less than one. -/
namespace AgentGateway

namespace Text
variable {α : Type} [DecidableEq α] {mark : α} {a : List α}

/-- A piece is made of what is split, and the separator is no part of it. -/
theorem mem_of_mem_splitAt {piece : List α} (h : piece ∈ splitAt mark a) :
    ∀ c ∈ piece, c ∈ a ∧ c ≠ mark := by
  induction a generalizing piece with
  | nil => simp_all [splitAt]
  | cons d rest ih =>
    have hlater {piece : List α} (h : piece ∈ splitAt mark rest) :
        ∀ c ∈ piece, c ∈ d :: rest ∧ c ≠ mark :=
      fun c hc => ⟨List.mem_cons_of_mem d (ih h c hc).1, (ih h c hc).2⟩
    unfold splitAt at h
    split at h
    · obtain rfl | h := List.mem_cons.mp h
      · simp
      · exact hlater h
    next hd =>
      cases hrest : splitAt mark rest with
      | nil => exact absurd hrest (splitAt_ne_nil mark rest)
      | cons first others =>
        rw [hrest] at h hlater
        obtain rfl | h := List.mem_cons.mp h
        · exact List.forall_mem_cons.mpr
            ⟨⟨List.mem_cons_self, hd⟩, hlater List.mem_cons_self⟩
        · exact hlater (List.mem_cons_of_mem _ h)

theorem splitAt_of_not_mem (h : mark ∉ a) : splitAt mark a = [a] := by
  induction a with
  | nil => rfl
  | cons c rest ih =>
    obtain ⟨hc, hrest⟩ := not_or.mp fun hmem => h (List.mem_cons.mpr hmem)
    simp [splitAt, Ne.symm hc, ih hrest]

theorem splitAt_append (h : mark ∉ a) (b : List α) :
    splitAt mark (a ++ mark :: b) = a :: splitAt mark b := by
  induction a with
  | nil => simp [splitAt]
  | cons c rest ih =>
    obtain ⟨hc, hrest⟩ := not_or.mp fun hmem => h (List.mem_cons.mpr hmem)
    simp [splitAt, Ne.symm hc, ih hrest]

end Text

namespace Entropy

/-- All that can be drawn are letters and digits. -/
def Alphanumeric (e : Entropy) : Prop := ∀ n, e.source n ∈ alphabet

theorem Alphanumeric.peek {e : Entropy} (h : e.Alphanumeric) (n : Nat) :
    ∀ c ∈ e.peek n, c ∈ alphabet := by
  intro c hc
  obtain ⟨i, -, rfl⟩ := List.mem_map.mp hc
  exact h _

theorem cyclic_alphanumeric : cyclic.Alphanumeric := by
  intro n
  have hlength : n % alphabet.length < alphabet.length := Nat.mod_lt _ (by decide)
  show alphabet.getD (n % alphabet.length) 'a' ∈ alphabet
  rw [List.getD_eq_getElem?_getD, List.getElem?_eq_getElem hlength]
  exact List.getElem_mem hlength

/-- Letters and digits stand for themselves and separate nothing. -/
theorem alphabet_word : ∀ c ∈ alphabet, Text.IsLow c ∧ c ≠ '_' :=
  List.all_iff_forall_prop.mp (by decide)

end Entropy

namespace Identifier

/-- A code point that separates nothing. -/
def Plain (n : Nat) : Prop := n < 0x110000 ∧ n ≠ '_'.toNat

instance (n : Nat) : Decidable (Plain n) := inferInstanceAs (Decidable (_ ∧ _))

theorem plain_toNat {c : Char} (h : Text.IsLow c ∧ c ≠ '_') : Plain c.toNat := by
  have hbound : c.toNat < 0x10d7ff := h.1
  exact ⟨by omega, fun hsame => h.2 (Char.toNat_inj.mp hsame)⟩

end Identifier

namespace Entropy

theorem Alphanumeric.peek_held {e : Entropy} (h : e.Alphanumeric) (n : Nat) :
    Text.spellAll ((e.peek n).map Char.toNat) = e.peek n :=
  Text.spellAll_of_low fun c hc => (alphabet_word c (h.peek n c hc)).1

theorem Alphanumeric.peek_plain {e : Entropy} (h : e.Alphanumeric) (n : Nat) :
    ∀ code ∈ (e.peek n).map Char.toNat, Identifier.Plain code :=
  List.forall_mem_map.mpr fun c hc => Identifier.plain_toNat (alphabet_word c (h.peek n c hc))

end Entropy

/-- How many characters a new identifier takes that has a partition key of its own. -/
def Layout.size (l : Layout) : Nat := l.entropy.toNat + l.partition.toNat

/-! ### Identifiers that were made here -/

namespace Identifier

/-- A category and a body that hold no separator are read back as they are. -/
theorem pieces_join {s : String} {category body : List Nat}
    (hs : s.toList = Text.spellAll (category ++ '_'.toNat :: body))
    (hcategories : ∀ n ∈ category, Plain n) (hbodies : ∀ n ∈ body, Plain n)
    (hcategory : category ≠ []) (hbody : body ≠ []) : pieces s = [category, body] := by
  have hcodes : ∀ n ∈ category ++ '_'.toNat :: body, n < 0x110000 :=
    List.forall_mem_append.mpr ⟨fun n hn => (hcategories n hn).1,
      List.forall_mem_cons.mpr ⟨by decide, fun n hn => (hbodies n hn).1⟩⟩
  rw [pieces, hs, Text.codes_spell hcodes, Text.splitAt_append fun h => (hcategories _ h).2 rfl,
    Text.splitAt_of_not_mem fun h => (hbodies _ h).2 rfl]
  simp [hcategory, hbody]

/-- The partition key is read back from an identifier that ends in it. -/
theorem partition?_join {s : String} {l : Layout} {category drawn key : List Nat}
    (hs : s.toList = Text.spellAll (category ++ '_'.toNat :: (drawn ++ key)))
    (hcategories : ∀ n ∈ category, Plain n) (hdrawns : ∀ n ∈ drawn, Plain n)
    (hkeys : ∀ n ∈ key, Plain n) (hcategory : category ≠ [])
    (hdrawn : (drawn.length : Int) = l.entropy) (hkey : (key.length : Int) = l.partition)
    (hpartition : 0 < l.partition) :
    partition? l s = some (String.ofList (Text.spellAll key)) := by
  have hbody : drawn ++ key ≠ [] := List.ne_nil_of_length_pos (by
    rw [List.length_append]
    omega)
  have htail : tail (drawn ++ key) l.partition = key := by
    rw [tail, if_pos hpartition, List.length_append,
      show drawn.length + key.length - l.partition.toNat = drawn.length by omega, List.drop_left]
  have hplain := List.forall_mem_append.mpr ⟨hdrawns, hkeys⟩
  simp only [partition?, pieces_join hs hcategories hplain hcategory hbody, htail]
  rw [if_neg (by
    rw [List.length_append]
    omega)]

/-- A new identifier with a partition key of its own takes the characters of both. -/
theorem fresh_drawn (category : String) {l : Layout} (hentropy : 0 ≤ l.entropy)
    (hpartition : 0 ≤ l.partition) (e : Entropy) :
    fresh category l none e =
      (.ok s!"{category}_{String.ofList (e.peek l.size)}", e.advance l.size) := by
  have hdrawn : Entropy.draw l.entropy e =
      (.ok (String.ofList (e.peek l.entropy.toNat)), e.advance l.entropy.toNat) :=
    if_neg (by omega)
  have hkey : Entropy.draw l.partition (e.advance l.entropy.toNat) =
      (.ok (String.ofList ((e.advance l.entropy.toNat).peek l.partition.toNat)),
        (e.advance l.entropy.toNat).advance l.partition.toNat) :=
    if_neg (by omega)
  have hfresh : fresh category l none e =
      (.ok (category ++ "_" ++ String.ofList (e.peek l.entropy.toNat) ++
          String.ofList ((e.advance l.entropy.toNat).peek l.partition.toNat)),
        (e.advance l.entropy.toNat).advance l.partition.toNat) := by
    rw [fresh, Drawing.bind_of_ok hdrawn]
    exact Drawing.bind_of_ok hkey _
  rw [hfresh, Layout.size, Entropy.peek_add, String.ofList_append]
  simp [Entropy.advance, String.append_assoc, Nat.add_assoc, toString]

/-- A conversation's identifier that was made here has a partition key. -/
theorem fresh_readable {l : Layout} (hentropy : 0 ≤ l.entropy) (hpartition : 0 < l.partition)
    {e : Entropy} (he : e.Alphanumeric) :
    (partition? l s!"conv_{String.ofList (e.peek l.size)}").isSome := by
  have hafter : (e.advance l.entropy.toNat).Alphanumeric := he
  have hheld : s!"conv_{String.ofList (e.peek l.size)}".toList =
      Text.spellAll ("conv".toList.map Char.toNat ++ '_'.toNat ::
        ((e.peek l.entropy.toNat).map Char.toNat ++
          ((e.advance l.entropy.toNat).peek l.partition.toNat).map Char.toNat)) := by
    have hparts := congrArg₂ (· ++ ·) (he.peek_held l.entropy.toNat)
      (hafter.peek_held l.partition.toNat)
    rw [Layout.size, Entropy.peek_add, ← hparts]
    simp only [Text.spellAll, List.flatMap_append, List.flatMap_cons]
    simp [toString]
    rfl
  have hread := partition?_join hheld (List.all_iff_forall_prop.mp (by decide))
    (he.peek_plain _) (hafter.peek_plain _) (by decide)
    (by rw [List.length_map, Entropy.length_peek, Int.toNat_of_nonneg hentropy])
    (by rw [List.length_map, Entropy.length_peek, Int.toNat_of_nonneg (Int.le_of_lt hpartition)])
    hpartition
  rw [hread]
  rfl

end Identifier

/-! ### Sources -/

/-- The conversation's identifier that a request supplies, if no partition key can be read off it.
An empty one counts as none. -/
def Request.unreadable? (r : Request) (l : Layout) : Option String :=
  (r.suppliedConversationId.filter (!·.isEmpty)).filter fun s =>
    (Identifier.partition? l s).isNone

/-- Lengths that are whole numbers. -/
def Layout.lengths (l : Layout) : Lengths := ⟨.int l.entropy, .int l.partition⟩

namespace IdSource

theorem ofLengths_eq {lengths : Lengths} {l : Layout} (hl : lengths.layout? = some l)
    (responseId conversationId : Option String) :
    ofLengths responseId conversationId lengths = make responseId conversationId l := by
  simp [ofLengths, hl]

/-- What is left when an identifier was drawn for one that is not given. -/
def spared (given : Option String) (l : Layout) (e : Entropy) : Entropy :=
  match given.filter (!·.isEmpty) with
  | some _ => e
  | none => e.advance l.size

/-- The identifier that is given, or else the one that is made of the next characters. -/
def chosen (given : Option String) (category : String) (l : Layout) (e : Entropy) : String :=
  (given.filter (!·.isEmpty)).getD s!"{category}_{String.ofList (e.peek l.size)}"

theorem spared_alphanumeric {e : Entropy} (he : e.Alphanumeric) (given : Option String)
    (l : Layout) : (spared given l e).Alphanumeric := by
  unfold spared
  split <;> exact he

section
variable (r : Request) {l : Layout} (hentropy : 0 ≤ l.entropy)
include hentropy

theorem givenOr_eq (hpartition : 0 ≤ l.partition) (given : Option String) (category : String)
    (e : Entropy) :
    givenOr given category l e = (.ok (chosen given category l e), spared given l e) := by
  have hfresh := Identifier.fresh_drawn category hentropy hpartition e
  cases given with
  | none => exact hfresh
  | some s =>
    cases h : s.isEmpty <;> simp only [givenOr, chosen, spared, Option.filter, h]
    · rfl
    · exact hfresh

/-- A source takes characters for the identifiers that are not given, and none for the key. -/
theorem make_eq (hpartition : 0 ≤ l.partition) (responseId conversationId : Option String)
    (e : Entropy) :
    make responseId conversationId l e =
      let e₁ := spared responseId l e
      let conversation := chosen conversationId "conv" l e₁
      match Identifier.partition? l conversation with
      | some key => (.ok ⟨l, chosen responseId "resp" l e, conversation, key⟩,
          spared conversationId l e₁)
      | none => (.error (.report (.malformedIdentifier (.text conversation))),
          spared conversationId l e₁) := by
  have hread (s : String) (e : Entropy) :
      (ExceptT.mk (pure (Identifier.partition l (some s))) : Drawing String) e =
        (Identifier.partition l (some s), e) := rfl
  rw [make, Drawing.bind_of_ok (givenOr_eq hentropy hpartition responseId "resp" e),
    Drawing.bind_of_ok (givenOr_eq hentropy hpartition conversationId "conv" _),
    Drawing.bind_apply, hread, Identifier.partition, Option.bind_some]
  dsimp only
  cases Identifier.partition? l (chosen conversationId "conv" l (spared responseId l e)) <;> rfl

/-- A request that supplies no unreadable identifier has a source. -/
theorem ofRequest_of_readable {e : Entropy} (hpartition : 0 < l.partition)
    (he : e.Alphanumeric) (h : r.unreadable? l = none) :
    ∃ ids e', (ofRequest r l.lengths).run e = (.ok ids, e') ∧ ids.layout = l := by
  have he₁ := spared_alphanumeric he r.suppliedResponseId l
  have hreadable : (Identifier.partition? l
      (chosen r.suppliedConversationId "conv" l (spared r.suppliedResponseId l e))).isSome := by
    unfold Request.unreadable? at h
    unfold chosen
    cases hsupplied : r.suppliedConversationId.filter (!·.isEmpty) with
    | some s =>
      rw [hsupplied] at h
      simpa [Option.filter, Option.isSome_iff_ne_none] using h
    | none => exact Identifier.fresh_readable hentropy hpartition he₁
  obtain ⟨key, hkey⟩ := Option.isSome_iff_exists.mp hreadable
  have hmake := make_eq hentropy (Int.le_of_lt hpartition) r.suppliedResponseId
    r.suppliedConversationId e
  simp only [hkey] at hmake
  exact ⟨_, _, hmake, rfl⟩

/-- A request that supplies an unreadable identifier is refused with a report of it. -/
theorem ofRequest_of_unreadable {e : Entropy} (hpartition : 0 ≤ l.partition)
    {s : String} (h : r.unreadable? l = some s) :
    ∃ e', (ofRequest r l.lengths).run e =
      (.error (.report (.malformedIdentifier (.text s))), e') := by
  obtain ⟨hsupplied, hnone⟩ := Option.filter_eq_some_iff.mp h
  have hmake := make_eq hentropy hpartition r.suppliedResponseId r.suppliedConversationId e
  simp only [chosen, hsupplied, Option.getD_some, Option.isNone_iff_eq_none.mp hnone] at hmake
  exact ⟨_, hmake⟩

end
end IdSource
end AgentGateway
