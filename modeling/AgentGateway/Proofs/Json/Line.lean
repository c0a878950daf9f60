import AgentGateway.Json.Writer
import Mathlib.Tactic.SplitIfs

/-! JSON text stands on one line.

What a writer puts between the parts of a value holds no control character, and a control character
within a text is escaped; so JSON text holds none at all, whatever the value (`render_printed`). -/
namespace AgentGateway

namespace Text

/-- No character is a control character. -/
def Printed (s : List Char) : Prop := ∀ c ∈ s, 32 ≤ c.toNat

instance (s : List Char) : Decidable (Printed s) := List.decidableBAll _ s

variable {s t : List Char}

@[simp]
theorem printed_nil : Printed [] := by simp [Printed]

@[simp]
theorem printed_cons (c : Char) : Printed (c :: s) ↔ 32 ≤ c.toNat ∧ Printed s :=
  List.forall_mem_cons

@[simp]
theorem printed_append : Printed (s ++ t) ↔ Printed s ∧ Printed t := List.forall_mem_append

theorem Printed.subset (h : Printed t) (hst : s ⊆ t) : Printed s := fun c hc => h c (hst hc)

theorem toDigits_printed (n : Nat) : Printed (Nat.toDigits 10 n) := by
  intro c hc
  have hdigit := Nat.isDigit_of_mem_toDigits (by decide) (by decide) hc
  simp only [Char.isDigit, Bool.and_eq_true, decide_eq_true_eq] at hdigit
  have hle : 48 ≤ c.toNat := hdigit.1
  omega

theorem hex_printed (width n : Nat) : Printed (hex width n) := by
  have hdigit : ∀ k < 16, 32 ≤ (hexDigit k).toNat := by decide
  intro c hc
  obtain ⟨k, hk, rfl⟩ := mem_hex hc
  exact hdigit k hk

end Text

open Text (Printed printed_cons printed_append)

/-! ### Numbers -/

namespace Double

theorem zeros_printed (n : Nat) : Printed (zeros n) := by
  intro c hc
  rw [List.eq_of_mem_replicate hc]
  decide

theorem trimZeros_printed {digits : List Char} (h : Printed digits) : Printed (trimZeros digits) := by
  refine h.subset fun c hc => ?_
  have hdropped := List.mem_reverse.mp hc
  exact List.mem_reverse.mp ((List.dropWhile_suffix _).subset hdropped)

theorem exponentText_printed (e : Int) : Printed (exponentText e) := by
  have hsign : 32 ≤ (if e < 0 then '-' else '+').toNat := by split <;> decide
  simp [exponentText, hsign, zeros_printed, Text.toDigits_printed]

theorem place_printed {digits : List Char} (h : Printed digits) (p : Int) :
    Printed (place digits p) := by
  have hpadded (n : Nat) : Printed (digits ++ zeros n) := printed_append.mpr ⟨h, zeros_printed n⟩
  unfold place
  split
  · refine printed_append.mpr ⟨?_, (printed_cons _).mpr ⟨by decide, exponentText_printed p⟩⟩
    match digits, h with
    | [], _ => simp
    | [d], h => exact h
    | d :: c :: rest, h => simpa using h
  · split
    · simp [zeros_printed, h]
    · refine printed_append.mpr ⟨(hpadded _).subset (List.take_subset _ _),
        (printed_cons _).mpr ⟨by decide, ?_⟩⟩
      split
      · decide
      · exact (hpadded _).subset (List.drop_subset _ _)

theorem text_printed (d : Double) : Printed d.text.toList := by
  have hsign : Printed (if d.negative then ['-'] else []) := by split <;> decide
  unfold text
  split
  · decide
  · rw [String.toList_ofList]
    refine printed_append.mpr ⟨hsign, ?_⟩
    split
    · decide
    · split
      · decide
      · exact place_printed (trimZeros_printed (Text.toDigits_printed _)) _

end Double

namespace Json

theorem number_printed (d : Double) : Printed (number d) := by
  unfold number
  split
  · decide
  · split
    · exact d.text_printed
    · split <;> decide

theorem int_printed (n : Int) : Printed (toString n).toList := by
  have hnat (n : Nat) : Printed (Nat.repr n).toList := by
    rw [Nat.toList_repr]
    exact Text.toDigits_printed n
  cases n with
  | ofNat n => exact hnat n
  | negSucc n =>
    show Printed ("-" ++ Nat.repr (n + 1)).toList
    rw [String.toList_append]
    exact printed_append.mpr ⟨by decide, hnat _⟩

/-! ### Texts and values -/

theorem escapedChar_printed (c : Char) : Printed (escapedChar c) := by
  unfold escapedChar
  split_ifs with _ _ _ _ _ _ _ hcontrol
  any_goals decide
  · simp [Text.hex_printed]
  · simpa using hcontrol

theorem string_printed (s : String) : Printed (string s) := by
  have hescaped : Printed (s.toList.flatMap escapedChar) := by
    intro c hc
    obtain ⟨d, -, hc⟩ := List.mem_flatMap.mp hc
    exact escapedChar_printed d c hc
  simp [string, hescaped]

section
variable {l : Layout} (hl : Printed (l.item ++ l.entry))
include hl

mutual

/-- **JSON text holds no control character.** -/
theorem render_printed (v : Value) : Printed (render l v) := by
  cases v with
  | null => simp [render]
  | bool b => cases b <;> simp [render]
  | int n => exact int_printed n
  | float d => exact number_printed d
  | text s => exact string_printed s
  | moment m => exact string_printed m.display
  | list xs =>
    cases xs with
    | nil => simp [render]
    | cons x xs =>
      have hfirst := render_printed x
      have hrest := renderItems_printed xs
      simp [render, hfirst, hrest]
  | object fs =>
    cases fs with
    | nil => simp [render]
    | cons e rest =>
      have hentry := (printed_append.mp hl).2
      have hvalue := render_printed e.2
      have hrest := renderEntries_printed rest
      simp [render, string_printed, hentry, hvalue, hrest]

theorem renderItems_printed (xs : List Value) : Printed (renderItems l xs) := by
  cases xs with
  | nil => simp [renderItems]
  | cons x xs =>
    have hitem := (printed_append.mp hl).1
    have hfirst := render_printed x
    have hrest := renderItems_printed xs
    simp [renderItems, hitem, hfirst, hrest]

theorem renderEntries_printed (fs : List (String × Value)) : Printed (renderEntries l fs) := by
  cases fs with
  | nil => simp [renderEntries]
  | cons e rest =>
    obtain ⟨hitem, hentry⟩ := printed_append.mp hl
    have hvalue := render_printed e.2
    have hrest := renderEntries_printed rest
    simp [renderEntries, hitem, hentry, string_printed, hvalue, hrest]

end
end
end Json
end AgentGateway
