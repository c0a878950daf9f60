import AgentGateway.Json.Reader
import AgentGateway.Proofs.Text.Spelling
import AgentGateway.Proofs.Value.Wire

/-! The keys of what is read.

A reader takes one code point after the other off a text, so what it has taken and what it has
left are spelled as their code points are (`Text.Spelled`). It follows that every object of a
document has each key once, and its keys are rows of code points (`wellKeyed_of_document`). -/
namespace AgentGateway

namespace Json
open Text (Spelled mark)

variable {s rest : List Char}

theorem skipBlanks_spelled (h : Spelled s) : Spelled (skipBlanks s) := h.dropWhile (by decide)

theorem after?_eq {word : List Char} (h : after? word s = some rest) : s = word ++ rest := by
  induction word generalizing s with
  | nil => exact Option.some.inj h
  | cons c word ih =>
    cases s with
    | nil => cases h
    | cons d s =>
      rw [after?] at h
      split at h
      · rename_i hsame
        rw [hsame, ih h, List.cons_append]
      · cases h

/-! ### Numbers -/

theorem spanDigits_spelled (h : Spelled s) : Spelled (spanDigits s).2 := h.dropWhile (by decide)

theorem fractionPart_spelled (h : Spelled s) {r : List Char × List Char}
    (hr : fractionPart s = some r) : Spelled r.2 := by
  unfold fractionPart at hr
  split at hr
  · dsimp only at hr
    split at hr
    · cases hr
    · cases hr
      exact spanDigits_spelled (h.of_cons (by decide))
  · cases hr

theorem exponentPart_spelled (h : Spelled s) {r : Int × List Char}
    (hr : exponentPart s = some r) : Spelled r.2 := by
  have hdigits {t : List Char} {n : Int} (ht : Spelled t)
      (hr : (if (spanDigits t).1.isEmpty then none else some (n, (spanDigits t).2)) = some r) :
      Spelled r.2 := by
    split at hr
    · cases hr
    · cases hr
      exact spanDigits_spelled ht
  cases s with
  | nil => cases hr
  | cons c s =>
    unfold exponentPart at hr
    dsimp only at hr
    split at hr
    · rename_i hc
      have hs : Spelled s := h.of_cons (by rintro rfl; revert hc; decide)
      split at hr
      · exact hdigits (hs.of_cons (by decide)) hr
      · exact hdigits (hs.of_cons (by decide)) hr
      · exact hdigits hs hr
    · cases hr

/-- What follows a fraction and an exponent. -/
theorem places_spelled (h : Spelled s) (n : Int) :
    Spelled ((exponentPart ((fractionPart s).elim s (·.2))).getD
      (n, (fractionPart s).elim s (·.2))).2 := by
  have hfraction : Spelled ((fractionPart s).elim s (·.2)) := by
    cases hr : fractionPart s with
    | none => exact h
    | some r => exact fractionPart_spelled h hr
  cases hr : exponentPart ((fractionPart s).elim s (·.2)) with
  | none => exact hfraction
  | some r => exact exponentPart_spelled hfraction hr

theorem unsigned?_spelled {negative : Bool} {v : Value} (h : Spelled s)
    (hr : unsigned? negative s = some (v, rest)) : v.wellKeyed = true ∧ Spelled rest := by
  unfold unsigned? at hr
  dsimp only at hr
  split at hr
  case' h_1 => have hs := h.of_cons (by decide)
  case' h_2 => have hs := spanDigits_spelled h
  all_goals
    split at hr
    · cases hr
    · split at hr
      · split at hr
        · cases hr
        · cases hr
          exact ⟨rfl, hs⟩
      · cases hr
        exact ⟨rfl, places_spelled hs _⟩

theorem number?_spelled {v : Value} (h : Spelled s) (hr : number? s = some (v, rest)) :
    v.wellKeyed = true ∧ Spelled rest := by
  unfold number? at hr
  split at hr
  · have hs := h.of_cons (by decide)
    split at hr
    · rename_i hword
      cases hr
      rw [after?_eq hword] at hs
      exact ⟨rfl, hs.of_append (by decide)⟩
    · exact unsigned?_spelled hs hr
  · exact unsigned?_spelled h hr

theorem word?_spelled {v : Value} (h : Spelled s) (hr : word? s = some (v, rest)) :
    v.wellKeyed = true ∧ Spelled rest := by
  obtain ⟨⟨w, u⟩, hmem, hword⟩ := List.exists_of_findSome?_eq_some hr
  obtain ⟨t, ht, hsame⟩ := Option.map_eq_some_iff.mp hword
  cases hsame
  have hwords : ∀ e ∈ words, mark ∉ e.1 ∧ e.2.wellKeyed = true := by decide
  rw [after?_eq ht] at h
  exact ⟨(hwords _ hmem).2, h.of_append (hwords _ hmem).1⟩

/-! ### Strings -/

theorem hexValue?_bounds {c : Char} {n : Nat} (h : hexValue? c = some n) : Text.IsLow c ∧ n < 16 := by
  unfold Text.IsLow
  unfold hexValue? at h
  dsimp only at h
  split at h
  · cases h
    omega
  · split at h
    · cases h
      omega
    · split at h
      · cases h
        omega
      · cases h

/-- Four digits are of the document, and a code point of the first plane. -/
theorem hexValue4?_bounds {a b c d : Char} {n : Nat} (h : hexValue4? a b c d = some n) :
    (Text.IsLow a ∧ Text.IsLow b ∧ Text.IsLow c ∧ Text.IsLow d) ∧ n < 0x10000 := by
  simp only [hexValue4?, Option.bind_eq_bind, Option.bind_eq_some_iff, Option.pure_def,
    Option.some.injEq] at h
  obtain ⟨na, ha, nb, hb, nc, hc, nd, hd, rfl⟩ := h
  obtain ⟨ha, hna⟩ := hexValue?_bounds ha
  obtain ⟨hb, hnb⟩ := hexValue?_bounds hb
  obtain ⟨hc, hnc⟩ := hexValue?_bounds hc
  obtain ⟨hd, hnd⟩ := hexValue?_bounds hd
  exact ⟨⟨ha, hb, hc, hd⟩, by omega⟩

theorem escaped?_low {c d : Char} (h : escaped? c = some d) : Text.IsLow c ∧ Text.IsLow d := by
  unfold escaped? at h
  split at h <;> cases h <;> decide

theorem inFront_eq_some {front body : List Char} {r : Option (List Char × List Char)}
    (h : r.map (inFront front) = some (body, rest)) : ∃ b, r = some (b, rest) ∧ body = front ++ b := by
  obtain ⟨⟨b, t⟩, rfl, hsame⟩ := Option.map_eq_some_iff.mp h
  cases hsame
  exact ⟨b, rfl, rfl⟩

theorem pairCode_lt {high low : Nat} (hhigh : high < 0x10000) (hlow : low < 0x10000)
    (h : (Text.isHighSurrogate high && Text.isLowSurrogate low) = true) :
    Text.pairCode high low < 0x110000 := by
  have hbounds : (0xd800 ≤ high ∧ high < 0xdc00) ∧ 0xdc00 ≤ low ∧ low < 0xe000 := by
    simpa [Text.isHighSurrogate, Text.isLowSurrogate] using h
  unfold Text.pairCode
  omega

/-- A place in a spelled text, either between two code points or behind a mark. -/
structure Inside (pre s : List Char) : Prop where
  front : pre = [] ∨ pre = [mark]
  spelled : Spelled (pre ++ s)

namespace Inside
variable {pre : List Char} {c : Char}

theorem start (h : Spelled s) : Inside [] s := ⟨.inl rfl, h⟩

/-- A character that is no part of another code point comes between two of them. -/
theorem of_low (h : Inside pre (c :: s)) (hc : Text.IsLow c) : pre = [] ∧ Inside [] s := by
  have hbound : c.toNat < 0x10d7ff := hc
  obtain ⟨rfl | rfl, hs⟩ := h
  · exact ⟨rfl, start (hs.of_cons (by rintro rfl; revert hbound; decide))⟩
  · obtain ⟨hne, -⟩ | ⟨-, d, t, hsame, hd, -⟩ := hs.cons_cases
    · exact absurd rfl hne
    · cases hsame
      omega

/-- An escape for a code point of the first plane comes between two others. -/
theorem of_escape {a b d e : Char} {n : Nat} (h : Inside pre ('\\' :: 'u' :: a :: b :: d :: e :: s))
    (hn : hexValue4? a b d e = some n) : pre = [] ∧ Inside [] s ∧ n < 0x10000 := by
  obtain ⟨⟨ha, hb, hd, he⟩, hbound⟩ := hexValue4?_bounds hn
  obtain ⟨rfl, hletter⟩ := h.of_low (by decide)
  obtain ⟨-, hdigits⟩ := hletter.of_low (by decide)
  exact ⟨rfl, ((((hdigits.of_low ha).2.of_low hb).2.of_low hd).2.of_low he).2, hbound⟩

/-- Any character is either the end of a code point or the mark in front of one. -/
theorem next (h : Inside pre (c :: s)) : ∃ pre', Inside pre' s ∧
    ∀ t, Spelled (pre' ++ t) → Spelled (pre ++ c :: t) := by
  obtain ⟨rfl | rfl, hs⟩ := h
  · obtain ⟨-, hc, hs⟩ | ⟨rfl, -⟩ := hs.cons_cases
    · exact ⟨[], start hs, fun t ht => hc.append ht⟩
    · exact ⟨[mark], ⟨.inr rfl, hs⟩, fun t ht => ht⟩
  · obtain ⟨hne, -⟩ | ⟨-, d, t, hsame, -, hc, hs⟩ := hs.cons_cases
    · exact absurd rfl hne
    · cases hsame
      exact ⟨[], start hs, fun t ht => hc.append ht⟩

end Inside

/-- What is read of a string is spelled, and so is what is left. -/
theorem stringBody?_spelled {pre body : List Char} (h : Inside pre s)
    (hr : stringBody? s = some (body, rest)) : Spelled (pre ++ body) ∧ Spelled rest := by
  fun_induction stringBody? s generalizing pre body rest with
  | case1 => cases hr
  | case2 =>
    cases hr
    obtain ⟨rfl, hs⟩ := h.of_low (by decide)
    exact ⟨Text.spelled_nil, hs.spelled⟩
  | case3 a b c d e f g l t ih ih' =>
    simp only [Option.bind_eq_bind, Option.bind_eq_some_iff] at hr
    obtain ⟨high, hhigh, low, hlow, hr⟩ := hr
    obtain ⟨rfl, hs, hhigh⟩ := h.of_escape hhigh
    split at hr
    · rename_i hpair
      obtain ⟨-, hs, hlow⟩ := hs.of_escape hlow
      obtain ⟨b, hread, hsame⟩ := inFront_eq_some hr
      obtain ⟨hbody, hrest⟩ := ih hs hread
      rw [hsame, List.nil_append]
      exact ⟨(Text.spelled_spell (pairCode_lt hhigh hlow hpair)).append hbody, hrest⟩
    · obtain ⟨b, hread, rfl⟩ := inFront_eq_some hr
      obtain ⟨hbody, hrest⟩ := ih' hs hread
      exact ⟨(Text.spelled_spell (by omega)).append hbody, hrest⟩
  | case4 a b c d t _ ih =>
    simp only [Option.bind_eq_bind, Option.bind_eq_some_iff] at hr
    obtain ⟨n, hn, hr⟩ := hr
    obtain ⟨rfl, hs, hn⟩ := h.of_escape hn
    obtain ⟨b, hread, rfl⟩ := inFront_eq_some hr
    obtain ⟨hbody, hrest⟩ := ih hs hread
    exact ⟨(Text.spelled_spell (by omega)).append hbody, hrest⟩
  | case5 c t _ _ ih =>
    simp only [Option.bind_eq_bind, Option.bind_eq_some_iff] at hr
    obtain ⟨d, hd, hr⟩ := hr
    obtain ⟨hc, hd⟩ := escaped?_low hd
    obtain ⟨rfl, hs⟩ := h.of_low (by decide)
    obtain ⟨b, hread, rfl⟩ := inFront_eq_some hr
    obtain ⟨hbody, hrest⟩ := ih (hs.of_low hc).2 hread
    exact ⟨(Text.spelled_of_low hd).append hbody, hrest⟩
  | case6 => cases hr
  | case7 c t _ _ _ _ _ ih =>
    obtain ⟨b, hread, rfl⟩ := inFront_eq_some hr
    obtain ⟨pre', hs, hfront⟩ := h.next
    obtain ⟨hbody, hrest⟩ := ih hs hread
    exact ⟨hfront _ hbody, hrest⟩

/-! ### Documents -/

theorem ofPairs_wellKeyed {pairs : Fields}
    (h : ∀ e ∈ pairs, Text.isHeld e.1 = true ∧ e.2.wellKeyed = true) :
    (Value.ofPairs pairs).wellKeyed = true := by
  refine Value.wellKeyed_object.mpr ⟨Keyed.nodup_keys_merge [] _ List.nodup_nil, fun e he => ?_⟩
  obtain hnone | hmem := Keyed.mem_merge he
  · cases hnone
  · exact h e hmem

theorem ofOption_eq_ok {α : Type} {r : Option α} {a : α} (h : Reading.ofOption r = .ok a) :
    r = some a := by
  cases r with
  | none => cases h
  | some b => exact congrArg some (Except.ok.inj h)

theorem bind_eq_ok {α β : Type} {r : Reading α} {f : α → Reading β} {b : β}
    (h : (r >>= f) = .ok b) : ∃ a, r = .ok a ∧ f a = .ok b := by
  cases r with
  | error fault => cases h
  | ok a => exact ⟨a, rfl, h⟩

theorem map_eq_ok {α β : Type} {r : Reading α} {f : α → β} {b : β} (h : r.map f = .ok b) :
    ∃ a, r = .ok a ∧ f a = b := by
  cases r with
  | error fault => cases h
  | ok a => exact ⟨a, rfl, Except.ok.inj h⟩

/-- What is read with so much fuel has each key once, and what is left is spelled. -/
structure Reads (fuel : Nat) : Prop where
  value : ∀ {levels s v rest}, Spelled s → value? levels s fuel = .ok (v, rest) →
    v.wellKeyed = true ∧ Spelled rest
  items : ∀ {levels s vs rest}, Spelled s → items? levels s fuel = .ok (vs, rest) →
    Value.wellKeyedList vs = true ∧ Spelled rest
  entries : ∀ {levels s es rest}, Spelled s → entries? levels s fuel = .ok (es, rest) →
    (∀ e ∈ es, Text.isHeld e.1 = true ∧ e.2.wellKeyed = true) ∧ Spelled rest

namespace Reads
variable {fuel levels : Nat} (ih : Reads fuel)
include ih

theorem value_succ {v : Value} (h : Spelled s) (hr : value? levels s (fuel + 1) = .ok (v, rest)) :
    v.wellKeyed = true ∧ Spelled rest := by
  unfold value? at hr
  split at hr
  · obtain ⟨r, hread, hsame⟩ := Option.map_eq_some_iff.mp (ofOption_eq_ok hr)
    cases hsame
    exact ⟨rfl, (stringBody?_spelled (.start (h.of_cons (by decide))) hread).2⟩
  · cases hr
  · have hopen := skipBlanks_spelled (h.of_cons (by decide))
    split at hr
    · rename_i hclosed
      cases hr
      rw [hclosed] at hopen
      exact ⟨rfl, hopen.of_cons (by decide)⟩
    · obtain ⟨r, hread, hsame⟩ := map_eq_ok hr
      cases hsame
      exact ih.items hopen hread
  · cases hr
  · have hopen := skipBlanks_spelled (h.of_cons (by decide))
    split at hr
    · rename_i hclosed
      cases hr
      rw [hclosed] at hopen
      exact ⟨rfl, hopen.of_cons (by decide)⟩
    · obtain ⟨r, hread, hsame⟩ := map_eq_ok hr
      cases hsame
      obtain ⟨hentries, hrest⟩ := ih.entries hopen hread
      exact ⟨ofPairs_wellKeyed hentries, hrest⟩
  · have hread := ofOption_eq_ok hr
    cases hword : word? s with
    | some r =>
      rw [hword] at hread
      cases hread
      exact word?_spelled h hword
    | none =>
      rw [hword] at hread
      exact number?_spelled h hread

theorem items_succ {vs : List Value} (h : Spelled s)
    (hr : items? levels s (fuel + 1) = .ok (vs, rest)) :
    Value.wellKeyedList vs = true ∧ Spelled rest := by
  unfold items? at hr
  obtain ⟨⟨v, t⟩, hvalue, hr⟩ := bind_eq_ok hr
  obtain ⟨hv, ht⟩ := ih.value h hvalue
  have hleft := skipBlanks_spelled ht
  dsimp only at hr
  split at hr
  · rename_i hclosed
    cases hr
    rw [hclosed] at hleft
    exact ⟨by simp [Value.wellKeyedList, hv], hleft.of_cons (by decide)⟩
  · rename_i hmore
    rw [hmore] at hleft
    obtain ⟨r, hread, hsame⟩ := map_eq_ok hr
    cases hsame
    obtain ⟨hitems, hrest⟩ := ih.items (skipBlanks_spelled (hleft.of_cons (by decide))) hread
    exact ⟨by simp [Value.wellKeyedList, hv, hitems], hrest⟩
  · cases hr

theorem entries_succ {es : Fields} (h : Spelled s)
    (hr : entries? levels s (fuel + 1) = .ok (es, rest)) :
    (∀ e ∈ es, Text.isHeld e.1 = true ∧ e.2.wellKeyed = true) ∧ Spelled rest := by
  unfold entries? at hr
  split at hr
  · obtain ⟨⟨key, t⟩, hkey, hr⟩ := bind_eq_ok hr
    obtain ⟨hheld, ht⟩ :=
      stringBody?_spelled (.start (h.of_cons (by decide))) (ofOption_eq_ok hkey)
    have hcolon := skipBlanks_spelled ht
    dsimp only at hr
    split at hr
    · rename_i hsaid
      rw [hsaid] at hcolon
      obtain ⟨⟨v, t⟩, hvalue, hr⟩ := bind_eq_ok hr
      obtain ⟨hv, ht⟩ := ih.value (skipBlanks_spelled (hcolon.of_cons (by decide))) hvalue
      have hentry : Text.isHeld (String.ofList key) = true ∧ v.wellKeyed = true := ⟨hheld.isHeld, hv⟩
      have hleft := skipBlanks_spelled ht
      dsimp only at hr
      split at hr
      · rename_i hclosed
        cases hr
        rw [hclosed] at hleft
        exact ⟨by simpa using hentry, hleft.of_cons (by decide)⟩
      · rename_i hmore
        rw [hmore] at hleft
        obtain ⟨r, hread, hsame⟩ := map_eq_ok hr
        cases hsame
        obtain ⟨hentries, hrest⟩ := ih.entries (skipBlanks_spelled (hleft.of_cons (by decide))) hread
        exact ⟨List.forall_mem_cons.mpr ⟨hentry, hentries⟩, hrest⟩
      · cases hr
    · cases hr
  · cases hr

end Reads

theorem reads (fuel : Nat) : Reads fuel := by
  induction fuel with
  | zero =>
    refine ⟨?_, ?_, ?_⟩
    · intro _ _ _ _ _ hr
      cases hr
    · intro _ _ _ _ _ hr
      cases hr
    · intro _ _ _ _ _ hr
      cases hr
  | succ fuel ih => exact ⟨ih.value_succ, ih.items_succ, ih.entries_succ⟩

/-- **In every object of a document each key stands once**, and is a row of code points. -/
theorem wellKeyed_of_document {levels : Nat} {v : Value} (h : Spelled s)
    (hr : document levels s = .ok v) : v.wellKeyed = true := by
  obtain ⟨⟨u, t⟩, hvalue, hr⟩ := bind_eq_ok hr
  dsimp only at hr
  split at hr
  · cases hr
    exact ((reads _).value (skipBlanks_spelled h) hvalue).1
  · cases hr

end Json
end AgentGateway
