import AgentGateway.Text.CodePoint
import Mathlib.Data.Bool.AllAny
import Mathlib.Data.List.TakeWhile

/-! When a text can be encoded.

Only half of a surrogate pair cannot, and such a half is held as a private character: a text of
characters below these is its own code points and can be encoded. -/
namespace AgentGateway.Text

theorem encodingFault?_eq_none_iff (s : List Char) :
    encodingFault? s = none ↔ isEncodable s = true := by
  have hdrop (p : Nat → Bool) (ns : List Nat) :
      ns.drop (ns.takeWhile p).length = ns.dropWhile p := by
    have hleft : (ns.takeWhile p ++ ns.dropWhile p).drop (ns.takeWhile p).length =
        ns.dropWhile p := List.drop_left
    rwa [List.takeWhile_append_dropWhile] at hleft
  rw [encodingFault?, hdrop, Option.map_eq_none_iff, List.head?_eq_none_iff,
    List.dropWhile_eq_nil_iff, isEncodable, List.all_eq_true]

theorem codes_lt (s : List Char) : ∀ n ∈ codes s, n < 0x110000 := by
  have hvalid (c : Char) : c.toNat < 0xd800 ∨ 0xdfff < c.toNat ∧ c.toNat < 0x110000 := c.valid
  have hcode (c : Char) : codeOf c < 0x110000 := by
    have h := hvalid c
    unfold codeOf
    split <;> omega
  fun_induction codes s with
  | case1 => simp
  | case2 c => simpa using hcode c
  | case3 d rest ih =>
    refine List.forall_mem_cons.mpr ⟨?_, ih⟩
    have h := hvalid d
    omega
  | case4 c d rest _ ih => exact List.forall_mem_cons.mpr ⟨hcode c, ih⟩

/-- A character that stands for itself alone. -/
def IsLow (c : Char) : Prop := c.toNat < 0x10d7ff

instance (c : Char) : Decidable (IsLow c) := Nat.decLt c.toNat 0x10d7ff

-- Deciding the conclusion itself may go through all characters there are.
theorem low_of_all {s : List Char} (h : (s.all fun c => decide (IsLow c)) = true) :
    ∀ c ∈ s, IsLow c := List.all_iff_forall_prop.mp h

/-- A text of such characters is held as it is. -/
theorem spellAll_of_low {s : List Char} (h : ∀ c ∈ s, IsLow c) : spellAll (s.map Char.toNat) = s := by
  have hspell {c : Char} (hc : c.toNat < 0x10d7ff) : spell c.toNat = [c] := by
    have hvalid : c.toNat < 0xd800 ∨ 0xdfff < c.toNat ∧ c.toNat < 0x110000 := c.valid
    have hsurrogate : isSurrogate c.toNat = false := by
      simp [isSurrogate]
      omega
    have hmarked : isMarked c.toNat = false := by
      simp [isMarked]
      omega
    simp [spell, hsurrogate, hmarked]
  induction s with
  | nil => rfl
  | cons c rest ih =>
    obtain ⟨hlow, hrest⟩ := List.forall_mem_cons.mp h
    rw [List.map_cons, spellAll, List.flatMap_cons, hspell hlow]
    exact congrArg (c :: ·) (ih hrest)

theorem codes_of_low {s : List Char} (h : ∀ c ∈ s, IsLow c) : codes s = s.map Char.toNat := by
  have hbound : ∀ n ∈ s.map Char.toNat, n < 0x110000 := by
    refine List.forall_mem_map.mpr fun c hc => ?_
    have hlow : c.toNat < 0x10d7ff := h c hc
    omega
  calc codes s = codes (spellAll (s.map Char.toNat)) := by rw [spellAll_of_low h]
    _ = s.map Char.toNat := codes_spell hbound

/-- No character is half of a surrogate pair. -/
theorem isEncodable_of_low {s : List Char} (h : ∀ c ∈ s, IsLow c) : isEncodable s = true := by
  rw [isEncodable, codes_of_low h, List.all_map, List.all_eq_true]
  intro c _
  have hvalid : c.toNat < 0xd800 ∨ 0xdfff < c.toNat ∧ c.toNat < 0x110000 := c.valid
  simp [isSurrogate]
  omega

end AgentGateway.Text
