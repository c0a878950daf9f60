import AgentGateway.Proofs.Text.Encoding
import AgentGateway.Text.Percent
import Mathlib.Data.List.Basic

/-! Texts that percent encoding leaves alone.

A text and its encoding are compared in lower case, as a whole and not character by character. That
still tells whether any character of it is encoded, since lengths tell: what is encoded grows to
three characters at least, and lower case makes no more than two of any (`length_lowerFrom_add`).
So a text cannot pass for its encoding by percent signs and digits of its own, or by characters
that become others in lower case, if some of it is encoded (`needsNoEncoding_iff`). -/
namespace AgentGateway.Text

/-! ### Characters that stand for themselves -/

/-- An ASCII letter or digit, or one of the four signs that every part of an address may hold. -/
def Unreserved (c : Char) : Prop :=
  ('A' ≤ c ∧ c ≤ 'Z') ∨ ('a' ≤ c ∧ c ≤ 'z') ∨ ('0' ≤ c ∧ c ≤ '9') ∨ c ∈ ['_', '.', '-', '~']

instance (c : Char) : Decidable (Unreserved c) := inferInstanceAs (Decidable (_ ∨ _))

section
variable {c : Char}

theorem isUnreserved_iff : isUnreserved c = true ↔ Unreserved c := by
  have hupper : c.isUpper = true ↔ 'A' ≤ c ∧ c ≤ 'Z' := decide_eq_true_iff
  have hlower : c.isLower = true ↔ 'a' ≤ c ∧ c ≤ 'z' := by
    show (decide ('a' ≤ c) && decide (c ≤ 'z')) = true ↔ _
    rw [Bool.and_eq_true, decide_eq_true_iff, decide_eq_true_iff]
  have hdigit : c.isDigit = true ↔ '0' ≤ c ∧ c ≤ '9' := by
    show (decide ('0' ≤ c) && decide (c ≤ '9')) = true ↔ _
    rw [Bool.and_eq_true, decide_eq_true_iff, decide_eq_true_iff]
  have halphanum : c.isAlphanum = (c.isUpper || c.isLower || c.isDigit) := rfl
  simp only [isUnreserved, Unreserved, halphanum, Bool.or_eq_true, hupper, hlower, hdigit,
    beq_iff_eq, List.mem_cons, List.not_mem_nil, or_false, or_assoc]

theorem Unreserved.lt (h : Unreserved c) : c.toNat < 128 := by
  obtain ⟨-, h⟩ | ⟨-, h⟩ | ⟨-, h⟩ | h := h
  · exact Nat.lt_of_le_of_lt h (by decide)
  · exact Nat.lt_of_le_of_lt h (by decide)
  · exact Nat.lt_of_le_of_lt h (by decide)
  · simp only [List.mem_cons, List.not_mem_nil, or_false] at h
    obtain rfl | rfl | rfl | rfl := h <;> decide

theorem Unreserved.isLow (h : Unreserved c) : IsLow c := Nat.lt_trans h.lt (by decide)

/-- Only characters far beyond ASCII hold another code point than their own, and none of ASCII. -/
theorem codeOf_cases (c : Char) : codeOf c = c.toNat ∨ 128 ≤ c.toNat ∧ 128 ≤ codeOf c := by
  unfold codeOf
  split
  · rename_i hmarked
    have hrange : 0x10d7ff ≤ c.toNat ∧ c.toNat < 0x10e000 := by simpa [isMarked] using hmarked
    omega
  · exact .inl rfl

end

/-- The characters of a text stand for themselves just if its code points do. -/
theorem unreserved_spellAll_iff {ns : List Nat} (hns : ∀ n ∈ ns, n < 0x110000) :
    (∀ c ∈ spellAll ns, Unreserved c) ↔ ∀ n ∈ ns, ∃ c, Unreserved c ∧ c.toNat = n := by
  constructor
  · intro h n hn
    have hcodes : ns = (spellAll ns).map Char.toNat := by
      rw [← codes_of_low fun c hc => (h c hc).isLow, codes_spell hns]
    rw [hcodes] at hn
    obtain ⟨c, hc, rfl⟩ := List.mem_map.mp hn
    exact ⟨c, h c hc, rfl⟩
  · intro h c hc
    obtain ⟨n, hn, hc⟩ := List.mem_flatMap.mp hc
    obtain ⟨d, hd, rfl⟩ := h n hn
    have hspell : spell d.toNat = [d] := by
      simpa [spellAll] using spellAll_of_low (s := [d]) (by simpa using hd.isLow)
    rw [hspell, List.mem_singleton] at hc
    rwa [hc]

/-! ### Lower case -/

theorem lowerChar_ne_nil (c : Char) : lowerChar c ≠ [] := by
  unfold lowerChar
  repeat' split
  all_goals simp

/-- In ASCII, lower case makes one character of one. -/
theorem lowerChar_of_lt {c : Char} (h : c.toNat < 128) :
    ∃ d : Char, lowerChar c = [d] ∧ d.toNat < 128 := by
  unfold lowerChar
  split
  · rename_i hupper
    have hbounds : 65 ≤ c.toNat ∧ c.toNat ≤ 90 := of_decide_eq_true hupper
    have hvalid : (c.toNat + 32).isValidChar := .inl (by omega)
    exact ⟨_, rfl, by rw [toNat_ofNat hvalid]; omega⟩
  · exact ⟨c, rfl, h⟩

/-- What becomes of the first character. Only a capital sigma looks about itself. -/
theorem lowerFrom_cons (behindCased : Bool) (c : Char) (rest : List Char) :
    ∃ here next, lowerFrom behindCased (c :: rest) = here ++ lowerFrom next rest ∧
      1 ≤ here.length ∧ here.length ≤ 2 ∧ (c ≠ capitalSigma → here = lowerChar c) := by
  by_cases hsigma : c = capitalSigma
  · exact ⟨_, _, by rw [lowerFrom, if_pos hsigma], by simp, by simp, absurd hsigma⟩
  · refine ⟨_, _, by rw [lowerFrom, if_neg hsigma], ?_, lowerChar_length c, fun _ => rfl⟩
    exact List.length_pos_iff.mpr (lowerChar_ne_nil c)

theorem length_le_lowerFrom (s : List Char) (behindCased : Bool) :
    s.length ≤ (lowerFrom behindCased s).length := by
  induction s generalizing behindCased with
  | nil => simp
  | cons c rest ih =>
    obtain ⟨here, next, hlower, hleast, -, -⟩ := lowerFrom_cons behindCased c rest
    have hrest := ih next
    rw [hlower, List.length_append, List.length_cons]
    omega

section
variable {s : List Char} (behindCased : Bool)

/-- A character without another case is left. -/
theorem mem_lowerFrom {c : Char} (hsigma : c ≠ capitalSigma) (hkept : lowerChar c = [c])
    (h : c ∈ s) : c ∈ lowerFrom behindCased s := by
  induction s generalizing behindCased with
  | nil => cases h
  | cons d rest ih =>
    obtain ⟨here, next, hlower, -, -, hown⟩ := lowerFrom_cons behindCased d rest
    rw [hlower, List.mem_append]
    obtain rfl | h := List.mem_cons.mp h
    · rw [hown hsigma, hkept]
      exact .inl List.mem_cons_self
    · exact .inr (ih next h)

theorem lowerFrom_lt (h : ∀ c ∈ s, c.toNat < 128) :
    ∀ c ∈ lowerFrom behindCased s, c.toNat < 128 := by
  have hsigma : capitalSigma ∉ s := fun hmem => absurd (h _ hmem) (by decide)
  rw [lowerFrom_eq_flatMap hsigma]
  intro c hc
  obtain ⟨d, hd, hc⟩ := List.mem_flatMap.mp hc
  obtain ⟨e, hlower, he⟩ := lowerChar_of_lt (h d hd)
  rw [hlower, List.mem_singleton] at hc
  rwa [hc]

end

/-! ### Encoding -/

/-- What stands for a byte in an address. -/
def writtenByte (b : Nat) : List Char :=
  if b < 128 ∧ isUnreserved (Char.ofNat b) then [Char.ofNat b] else percentByte b

theorem le_of_mem_utf8Bytes {n b : Nat} (hn : 128 ≤ n) (h : b ∈ utf8Bytes n) : 128 ≤ b := by
  unfold utf8Bytes at h
  repeat' split at h
  all_goals
    simp only [List.mem_cons, List.not_mem_nil, or_false] at h
    omega

/-- A code point is written byte by byte: of those beyond ASCII, no byte looks like ASCII. -/
theorem percentCode_eq (n : Nat) : percentCode n = (utf8Bytes n).flatMap writtenByte := by
  by_cases hn : n < 128
  · simp [percentCode, writtenByte, utf8Bytes, hn]
  · rw [percentCode, if_neg fun h => hn h.1]
    refine List.flatMap_congr fun b hb => ?_
    have hle := le_of_mem_utf8Bytes (Nat.le_of_not_lt hn) hb
    rw [writtenByte, if_neg fun h => absurd h.1 (Nat.not_lt.mpr hle)]

theorem writtenByte_lt {b : Nat} {c : Char} (h : c ∈ writtenByte b) : c.toNat < 128 := by
  have hdigit : ∀ k < 16, (hexDigit k).toUpper.toNat < 128 := by decide
  unfold writtenByte at h
  split at h
  · rename_i hown
    have hvalid : b.isValidChar := .inl (by omega)
    rw [List.mem_singleton.mp h, toNat_ofNat hvalid]
    exact hown.1
  · obtain rfl | h := List.mem_cons.mp h
    · decide
    · obtain ⟨d, hd, rfl⟩ := List.mem_map.mp h
      obtain ⟨k, hk, rfl⟩ := mem_hex hd
      exact hdigit k hk

theorem percentEncode_lt {s : String} : ∀ c ∈ (percentEncode s).toList, c.toNat < 128 := by
  intro c hc
  rw [percentEncode, String.toList_ofList] at hc
  obtain ⟨n, -, hc⟩ := List.mem_flatMap.mp hc
  rw [percentCode_eq] at hc
  obtain ⟨b, -, hc⟩ := List.mem_flatMap.mp hc
  exact writtenByte_lt hc

section
variable {c : Char}

theorem percentCode_of_unreserved (h : Unreserved c) : percentCode c.toNat = [c] := by
  rw [percentCode, Char.ofNat_toNat, if_pos ⟨h.lt, isUnreserved_iff.mpr h⟩]

theorem Unreserved.codeOf_eq (h : Unreserved c) : codeOf c = c.toNat := by
  have hlt := h.lt
  have hcases := codeOf_cases c
  omega

/-- What is encoded takes three characters for each byte, and there is one at least. -/
theorem length_percentCode (h : ¬Unreserved c) : 3 ≤ (percentCode (codeOf c)).length := by
  have hreserved : ¬(codeOf c < 128 ∧ isUnreserved (Char.ofNat (codeOf c)) = true) := by
    rintro ⟨hlt, hown⟩
    have hcode : codeOf c = c.toNat := by
      have hcases := codeOf_cases c
      omega
    rw [hcode, Char.ofNat_toNat] at hown
    exact h (isUnreserved_iff.mp hown)
  have hbytes : utf8Bytes (codeOf c) ≠ [] := by
    unfold utf8Bytes
    repeat' split
    all_goals simp
  obtain ⟨b, rest, hb⟩ := List.exists_cons_of_ne_nil hbytes
  have hbyte : (percentByte b).length = 3 := by simp [percentByte, length_hex]
  rw [percentCode, if_neg hreserved, hb, List.flatMap_cons, List.length_append]
  omega

end

/-! ### The comparison -/

/-- In lower case a text is shorter than its encoding, by one character at least for each that is
encoded. -/
theorem length_lowerFrom_add {s : List Char} (hmark : mark ∉ s) (behindCased : Bool) :
    (lowerFrom behindCased s).length + s.countP (fun c => ¬Unreserved c) ≤
      ((codes s).flatMap percentCode).length := by
  induction s generalizing behindCased with
  | nil => simp [lowerFrom]
  | cons c rest ih =>
    obtain ⟨hc, hrest⟩ : ¬mark = c ∧ mark ∉ rest := by simpa using hmark
    obtain ⟨here, next, hlower, -, hmost, hown⟩ := lowerFrom_cons behindCased c rest
    have htail := ih hrest next
    rw [codes_cons (Ne.symm hc), List.flatMap_cons, hlower, List.length_append, List.length_append,
      List.countP_cons]
    by_cases h : Unreserved c
    · have hsigma : c ≠ capitalSigma := by
        rintro rfl
        exact absurd h.lt (by decide)
      obtain ⟨d, hd, -⟩ := lowerChar_of_lt h.lt
      have hhere : here.length = 1 := by rw [hown hsigma, hd, List.length_singleton]
      have hcode : (percentCode (codeOf c)).length = 1 := by
        rw [h.codeOf_eq, percentCode_of_unreserved h, List.length_singleton]
      simp only [h, not_true_eq_false, decide_false, Bool.false_eq_true, if_false]
      omega
    · have hcode := length_percentCode h
      simp only [h, not_false_eq_true, decide_true, if_true]
      omega

/-- A text of which nothing is encoded is its own encoding. -/
theorem percentEncode_eq_self {s : String} (h : ∀ c ∈ s.toList, Unreserved c) :
    percentEncode s = s := by
  have hcodes : codes s.toList = s.toList.map Char.toNat := codes_of_low fun c hc => (h c hc).isLow
  have hsingle : s.toList.flatMap (fun c => percentCode c.toNat) = s.toList.flatMap fun c => [c] :=
    List.flatMap_congr fun c hc => percentCode_of_unreserved (h c hc)
  rw [percentEncode, hcodes, List.flatMap_map, hsingle, List.flatMap_singleton',
    String.ofList_toList]

/-- The comparison tells whether any character of a text is encoded. -/
theorem needsNoEncoding_iff (s : String) :
    needsNoEncoding s = true ↔ ∀ c ∈ s.toList, Unreserved c := by
  rw [needsNoEncoding, beq_iff_eq]
  constructor
  · intro h
    have hlower : lowerFrom false (percentEncode s).toList = lowerFrom false s.toList := by
      simpa [lower] using congrArg String.toList h
    -- A mark has no other case and is no character of an encoding, so lengths need not count it.
    have hmark : mark ∉ s.toList := by
      intro hmem
      have hkept := mem_lowerFrom false (by decide) (by decide +kernel) hmem
      rw [← hlower] at hkept
      exact absurd (lowerFrom_lt false percentEncode_lt mark hkept) (by decide)
    have hgrown := length_le_lowerFrom (percentEncode s).toList false
    have hshort := length_lowerFrom_add hmark false
    rw [hlower, percentEncode, String.toList_ofList] at hgrown
    have hnone : s.toList.countP (fun c => ¬Unreserved c) = 0 := by omega
    simpa [List.countP_eq_zero] using hnone
  · intro h
    rw [percentEncode_eq_self h]

end AgentGateway.Text
