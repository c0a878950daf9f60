import AgentGateway.Proofs.Text.Encoding
import Mathlib.Data.List.Nodup

/-! Texts with signs of replacement.

Where a key has to be a text, three signs of replacement stand for each code point that has no
encoding. What is replaced once is not replaced again (`replacedText_replacedText`), and no key
is mistaken for a word of the wire on the way: a replaced one shows the signs
(`eq_of_replacedText`). -/
namespace AgentGateway.Text

/-- Whether a text is spelled as its code points are, as every row of code points is held. -/
def isHeld (s : String) : Bool := spellAll (codes s.toList) == s.toList

theorem isHeld_spellAll {ns : List Nat} (h : ∀ n ∈ ns, n < 0x110000) :
    isHeld (String.ofList (spellAll ns)) = true := by
  rw [isHeld, String.toList_ofList, codes_spell h, beq_self_eq_true]

/-- Code points with three signs of replacement for what has no encoding. -/
def substituted (ns : List Nat) : List Nat :=
  ns.flatMap fun n => if isSurrogate n then List.replicate 3 0xfffd else [n]

theorem replaced_eq (s : List Char) : replaced s = spellAll (substituted (codes s)) := by
  rw [replaced, spellAll, substituted, List.flatMap_assoc]
  refine List.flatMap_congr fun n _ => ?_
  split
  · rfl
  · simp

theorem substituted_lt {ns : List Nat} (h : ∀ n ∈ ns, n < 0x110000) :
    ∀ n ∈ substituted ns, n < 0x110000 := by
  intro n hn
  obtain ⟨m, hm, hn⟩ := List.mem_flatMap.mp hn
  split at hn
  · obtain rfl := List.eq_of_mem_replicate hn
    decide
  · obtain rfl := List.mem_singleton.mp hn
    exact h n hm

/-- What can be encoded is left as it is. -/
theorem substituted_eq_self {ns : List Nat} (h : ∀ n ∈ ns, isSurrogate n = false) :
    substituted ns = ns := by
  have hsingle : substituted ns = ns.flatMap fun n => [n] :=
    List.flatMap_congr fun n hn => by simp [h n hn]
  rw [hsingle, List.flatMap_singleton']

theorem not_isSurrogate_of_mem_substituted {ns : List Nat} :
    ∀ n ∈ substituted ns, isSurrogate n = false := by
  intro n hn
  obtain ⟨m, hm, hn⟩ := List.mem_flatMap.mp hn
  split at hn
  · obtain rfl := List.eq_of_mem_replicate hn
    decide
  · rename_i hplain
    obtain rfl := List.mem_singleton.mp hn
    simpa using hplain

theorem codes_replaced (s : List Char) : codes (replaced s) = substituted (codes s) := by
  rw [replaced_eq]
  exact codes_spell (substituted_lt (codes_lt s))

/-- Signs of replacement are not replaced. -/
theorem replacedText_replacedText (s : String) : replacedText (replacedText s) = replacedText s := by
  rw [replacedText, replacedText, String.toList_ofList, replaced_eq, codes_replaced,
    substituted_eq_self not_isSurrogate_of_mem_substituted, ← replaced_eq]

theorem isHeld_replacedText (s : String) : isHeld (replacedText s) = true := by
  rw [replacedText, replaced_eq]
  exact isHeld_spellAll (substituted_lt (codes_lt _))

/-- A word of the wire: its characters stand for themselves, and none is a sign of
replacement. -/
def IsWord (s : String) : Prop := (s.toList.all fun c => decide (c.toNat < 0xfffd)) = true

instance (s : String) : Decidable (IsWord s) := inferInstanceAs (Decidable (_ = true))

section
variable {s word : String}

theorem IsWord.codes_eq (h : IsWord word) :
    codes word.toList = word.toList.map Char.toNat ∧ ∀ n ∈ codes word.toList, n < 0xfffd := by
  have hbound : ∀ c ∈ word.toList, c.toNat < 0xfffd := List.all_iff_forall_prop.mp h
  have hcodes := codes_of_low (s := word.toList) fun c hc => (hbound c hc).trans (by decide)
  refine ⟨hcodes, ?_⟩
  rw [hcodes]
  exact List.forall_mem_map.mpr hbound

theorem IsWord.spellAll_codes (h : IsWord word) : spellAll (codes word.toList) = word.toList := by
  have hbound : ∀ c ∈ word.toList, c.toNat < 0xfffd := List.all_iff_forall_prop.mp h
  rw [h.codes_eq.1]
  exact spellAll_of_low fun c hc => (hbound c hc).trans (by decide)

/-- A replaced key is no word, unless it is that word from the start. -/
theorem eq_of_replacedText (hs : isHeld s = true) (hword : IsWord word)
    (h : replacedText s = word) : s = word := by
  have hheld : spellAll (codes s.toList) = s.toList := by simpa [isHeld] using hs
  have hsubstituted : substituted (codes s.toList) = codes word.toList := by
    rw [← h, replacedText, String.toList_ofList, codes_replaced]
  have hplain : ∀ n ∈ codes s.toList, isSurrogate n = false := by
    intro n hn
    by_contra hsurrogate
    have hsign : 0xfffd ∈ substituted (codes s.toList) :=
      List.mem_flatMap.mpr ⟨n, hn, by simp [hsurrogate]⟩
    rw [hsubstituted] at hsign
    exact absurd (hword.codes_eq.2 _ hsign) (by decide)
  rw [substituted_eq_self hplain] at hsubstituted
  refine String.toList_injective ?_
  rw [← hheld, hsubstituted, hword.spellAll_codes]

theorem IsWord.isHeld (h : IsWord word) : Text.isHeld word = true := by
  simp [Text.isHeld, h.spellAll_codes]

theorem IsWord.not_isSurrogate (h : IsWord word) :
    ∀ n ∈ codes word.toList, isSurrogate n = false := by
  intro n hn
  have hbound := h.codes_eq.2 n hn
  rw [h.codes_eq.1] at hn
  obtain ⟨c, -, rfl⟩ := List.mem_map.mp hn
  have hvalid : c.toNat < 0xd800 ∨ 0xdfff < c.toNat ∧ c.toNat < 0x110000 := c.valid
  simp [isSurrogate]
  omega

theorem IsWord.replacedText_eq (h : IsWord word) : replacedText word = word := by
  rw [replacedText, replaced_eq, substituted_eq_self h.not_isSurrogate, h.spellAll_codes,
    String.ofList_toList]

theorem isEncodable_iff :
    isEncodable s.toList = true ↔ ∀ n ∈ codes s.toList, isSurrogate n = false := by
  simp [isEncodable]

theorem IsWord.isEncodable (h : IsWord word) : Text.isEncodable word.toList = true :=
  isEncodable_iff.mpr h.not_isSurrogate

/-- A text is left as it is where it can be encoded. -/
theorem replacedText_eq_self_iff (hs : Text.isHeld s = true) :
    replacedText s = s ↔ Text.isEncodable s.toList = true := by
  have hheld : spellAll (codes s.toList) = s.toList := by simpa [Text.isHeld] using hs
  rw [isEncodable_iff]
  constructor
  · intro h n hn
    have hcodes : codes s.toList = substituted (codes s.toList) := by
      conv_lhs => rw [← h, replacedText, String.toList_ofList, codes_replaced]
    exact not_isSurrogate_of_mem_substituted n (hcodes ▸ hn)
  · intro h
    rw [replacedText, replaced_eq, substituted_eq_self h, hheld, String.ofList_toList]

end

end AgentGateway.Text
