import AgentGateway.Proofs.Text.Replacement
import AgentGateway.Text.Encoding

/-! Texts that spell their code points.

A code point is spelled by one character, or by the mark and one that follows it, so a spelled
text that is taken apart between code points leaves spelled texts. What is decoded from bytes is
spelled (`decode?_spelled`). -/
namespace AgentGateway.Text

/-- Characters that spell some code points. -/
def Spelled (s : List Char) : Prop := ∃ ns, (∀ n ∈ ns, n < 0x110000) ∧ s = spellAll ns

theorem Spelled.isHeld {s : List Char} (h : Spelled s) : isHeld (String.ofList s) = true := by
  obtain ⟨ns, hns, rfl⟩ := h
  exact isHeld_spellAll hns

theorem spelled_nil : Spelled [] := ⟨[], by simp, rfl⟩

theorem spelled_spell {n : Nat} (h : n < 0x110000) : Spelled (spell n) :=
  ⟨[n], by simpa using h, by simp [spellAll]⟩

theorem Spelled.append {s t : List Char} (hs : Spelled s) (ht : Spelled t) : Spelled (s ++ t) := by
  obtain ⟨ns, hns, rfl⟩ := hs
  obtain ⟨ms, hms, rfl⟩ := ht
  exact ⟨ns ++ ms, List.forall_mem_append.mpr ⟨hns, hms⟩, by simp [spellAll]⟩

theorem spelled_of_low {c : Char} (h : IsLow c) : Spelled [c] := by
  have hbound : c.toNat < 0x10d7ff := h
  have hspell : spellAll [c.toNat] = [c] := spellAll_of_low (s := [c]) (by simpa using h)
  exact ⟨[c.toNat], by simp; omega, hspell.symm⟩

/-- A code point is spelled by one character, or by the mark and one that is no character of a
document's own. -/
theorem spell_cases {n : Nat} (h : n < 0x110000) : (∃ c, c ≠ mark ∧ spell n = [c]) ∨
    ∃ d : Char, 0x10d800 ≤ d.toNat ∧ spell n = [mark, d] := by
  have hvalid {m : Nat} (hm : m.isValidChar) (hne : m ≠ 0x10d7ff) : Char.ofNat m ≠ mark := by
    intro hsame
    have hnat := congrArg Char.toNat hsame
    rw [toNat_ofNat hm] at hnat
    exact hne hnat
  unfold spell
  split
  · rename_i hsurrogate
    have hbounds : 0xd800 ≤ n ∧ n < 0xe000 := by simpa [isSurrogate] using hsurrogate
    exact .inl ⟨_, hvalid (.inr (by omega)) (by omega), rfl⟩
  · rename_i hplain
    have hbounds : ¬(0xd800 ≤ n ∧ n < 0xe000) := by simpa [isSurrogate] using hplain
    split
    · rename_i hmarked
      have hrange : 0x10d7ff ≤ n ∧ n < 0x10e000 := by simpa [isMarked] using hmarked
      have hnext : (n + 1).isValidChar := .inr (by omega)
      exact .inr ⟨_, by rw [toNat_ofNat hnext]; omega, rfl⟩
    · rename_i hmarked
      have hrange : ¬(0x10d7ff ≤ n ∧ n < 0x10e000) := by simpa [isMarked] using hmarked
      have hown : n.isValidChar := by
        unfold Nat.isValidChar
        omega
      exact .inl ⟨_, hvalid hown (by omega), rfl⟩

/-- What is spelled begins with a character that stands alone, or with the mark and another. -/
theorem Spelled.cons_cases {c : Char} {s : List Char} (h : Spelled (c :: s)) :
    (c ≠ mark ∧ Spelled [c] ∧ Spelled s) ∨
      c = mark ∧ ∃ d rest, s = d :: rest ∧ 0x10d800 ≤ d.toNat ∧ Spelled [c, d] ∧ Spelled rest := by
  obtain ⟨ns, hns, hs⟩ := h
  cases ns with
  | nil => cases hs
  | cons n ns =>
    obtain ⟨hn, hrest⟩ := List.forall_mem_cons.mp hns
    have hfront := spelled_spell hn
    rw [spellAll, List.flatMap_cons] at hs
    obtain ⟨x, hx, hspell⟩ | ⟨d, hd, hspell⟩ := spell_cases hn
    · rw [hspell] at hs hfront
      cases hs
      exact .inl ⟨hx, hfront, ns, hrest, rfl⟩
    · rw [hspell] at hs hfront
      cases hs
      exact .inr ⟨rfl, d, _, rfl, hd, hfront, ns, hrest, rfl⟩

theorem Spelled.of_cons {c : Char} {s : List Char} (h : Spelled (c :: s)) (hc : c ≠ mark) :
    Spelled s := by
  obtain ⟨-, -, hs⟩ | ⟨hmark, -⟩ := h.cons_cases
  · exact hs
  · exact absurd hmark hc

/-- What is left of a spelled text, behind characters that stand alone. -/
theorem Spelled.of_append {s t : List Char} (h : Spelled (s ++ t)) (hs : mark ∉ s) : Spelled t := by
  induction s with
  | nil => exact h
  | cons c s ih =>
    obtain ⟨hc, hs⟩ : ¬mark = c ∧ mark ∉ s := by simpa using hs
    exact ih (h.of_cons (Ne.symm hc)) hs

theorem Spelled.dropWhile {s : List Char} (h : Spelled s) {p : Char → Bool} (hp : p mark = false) :
    Spelled (s.dropWhile p) := by
  rw [← List.takeWhile_append_dropWhile (p := p) (l := s)] at h
  refine h.of_append fun hmem => ?_
  rw [List.mem_takeWhile_imp hmem] at hp
  cases hp

/-! ### What is decoded -/

theorem before?_spelled {n : Nat} {rest : Option (List Char)} {s : List Char}
    (h : before? n rest = some s) (hrest : ∀ t, rest = some t → Spelled t) : Spelled s := by
  unfold before? at h
  split at h
  · rename_i hn
    obtain ⟨t, ht, rfl⟩ := Option.map_eq_some_iff.mp h
    exact (spelled_spell hn).append (hrest t ht)
  · cases h

/-- A character below the surrogates spells itself. -/
theorem spelled_ofNat {n : Nat} (h : n < 0xd800) : Spelled [Char.ofNat n] := by
  have hvalid : n.isValidChar := .inl h
  refine spelled_of_low ?_
  unfold IsLow
  rw [toNat_ofNat hvalid]
  omega

theorem utf8?_spelled {bytes : List Nat} {s : List Char} (h : utf8? bytes = some s) : Spelled s := by
  fun_induction utf8? bytes generalizing s with
  | case1 =>
    cases h
    exact spelled_nil
  | case2 a rest ha ih =>
    obtain ⟨t, ht, rfl⟩ := Option.map_eq_some_iff.mp h
    exact (spelled_ofNat (by omega)).append (ih ht)
  | case3 a _ b rest hb ih =>
    obtain ⟨t, ht, rfl⟩ := Option.map_eq_some_iff.mp h
    simp only [isTail, Bool.and_eq_true, decide_eq_true_eq] at hb
    exact (spelled_ofNat (by omega)).append (ih ht)
  | case4 a _ b _ c rest _ ih => exact before?_spelled h fun _ => ih
  | case5 a _ b _ c _ d rest _ ih => exact before?_spelled h fun _ => ih
  | case6 => cases h
  | case7 => cases h
  | case8 => cases h
  | case9 => cases h

section
variable {o : ByteOrder}

theorem pairValue_lt {a b : Nat} (ha : a < 256) (hb : b < 256) : pairValue o a b < 0x10000 := by
  cases o <;> simp only [pairValue] <;> omega

theorem units16?_lt {bytes units : List Nat} (hbytes : ∀ b ∈ bytes, b < 256)
    (h : units16? o bytes = some units) : ∀ u ∈ units, u < 0x10000 := by
  fun_induction units16? o bytes generalizing units with
  | case1 =>
    cases h
    simp
  | case2 => cases h
  | case3 a b rest ih =>
    obtain ⟨us, hus, rfl⟩ := Option.map_eq_some_iff.mp h
    simp only [List.forall_mem_cons] at hbytes
    obtain ⟨ha, hb, hrest⟩ := hbytes
    exact List.forall_mem_cons.mpr ⟨pairValue_lt ha hb, ih hrest hus⟩

theorem ofUnits16_spelled {units : List Nat} (h : ∀ u ∈ units, u < 0x10000) :
    Spelled (ofUnits16 units) := by
  fun_induction ofUnits16 units with
  | case1 => exact spelled_nil
  | case2 u => exact spelled_spell ((h u List.mem_cons_self).trans (by decide))
  | case3 u v rest hpair ih =>
    simp only [List.forall_mem_cons] at h
    simp only [isHighSurrogate, isLowSurrogate, Bool.and_eq_true, decide_eq_true_eq] at hpair
    refine (spelled_spell ?_).append (ih h.2.2)
    unfold pairCode
    omega
  | case4 u v rest hpair ih =>
    obtain ⟨hu, hrest⟩ := List.forall_mem_cons.mp h
    exact (spelled_spell (hu.trans (by decide))).append (ih hrest)

theorem utf16?_spelled {bytes : List Nat} {s : List Char} (hbytes : ∀ b ∈ bytes, b < 256)
    (h : utf16? o bytes = some s) : Spelled s := by
  obtain ⟨units, hunits, rfl⟩ := Option.map_eq_some_iff.mp h
  exact ofUnits16_spelled (units16?_lt hbytes hunits)

theorem utf32?_spelled {bytes : List Nat} {s : List Char} (h : utf32? o bytes = some s) :
    Spelled s := by
  fun_induction utf32? o bytes generalizing s with
  | case1 =>
    cases h
    exact spelled_nil
  | case2 =>
    rename_i ih
    exact before?_spelled h fun _ => ih
  | case3 => cases h

end

theorem decode?_spelled {bytes : List Nat} {s : List Char} (hbytes : ∀ b ∈ bytes, b < 256)
    (h : decode? bytes = some s) : Spelled s := by
  unfold decode? at h
  split at h
  · exact utf32?_spelled h
  · exact utf32?_spelled h
  · exact utf16?_spelled (by simpa using hbytes) h
  · exact utf16?_spelled (by simpa using hbytes) h
  · exact utf8?_spelled h
  · dsimp only at h
    split at h
    · split at h
      · exact utf32?_spelled h
      · exact utf16?_spelled hbytes h
    · split at h
      · split at h
        · exact utf32?_spelled h
        · exact utf16?_spelled hbytes h
      · exact utf8?_spelled h
  · split at h
    · exact utf16?_spelled hbytes h
    · split at h
      · exact utf16?_spelled hbytes h
      · exact utf8?_spelled h
  · exact utf8?_spelled h

end AgentGateway.Text
