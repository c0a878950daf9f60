import AgentGateway.AgentName
import AgentGateway.Proofs.Text.Percent

/-! Which names an agent may have in a route.

A name has to hold something, and nothing that percent encoding would change. It is compared with
its encoding as a whole and without regard to letter case, but that lets no other name pass
(`Text.needsNoEncoding_iff`), so its characters decide (`name_accepted_iff`). Half of a surrogate
pair has no encoding to compare with, and is refused before. -/
namespace AgentGateway
open Text (Unreserved)

/-- A name of characters that stand for themselves can be encoded. -/
theorem encodingFault?_of_unreserved {s : List Char} (h : ∀ c ∈ s, Unreserved c) :
    Text.encodingFault? s = none :=
  (Text.encodingFault?_eq_none_iff s).mpr (Text.isEncodable_of_low fun c hc => (h c hc).isLow)

theorem checkAgentName_eq_ok_iff (name : String) :
    checkAgentName name = .ok () ↔ name ≠ "" ∧ ∀ c ∈ name.toList, Unreserved c := by
  unfold checkAgentName
  split
  · rename_i hempty
    exact iff_of_false nofun fun h => h.1 (String.isEmpty_iff.mp hempty)
  · rename_i hempty
    have hne : name ≠ "" := fun h => hempty (String.isEmpty_iff.mpr h)
    rw [and_iff_right hne]
    split
    · rename_i fault hfault
      refine iff_of_false nofun fun h => ?_
      rw [encodingFault?_of_unreserved h] at hfault
      cases hfault
    · rw [← Text.needsNoEncoding_iff]
      split
      · rename_i hsame
        exact iff_of_true rfl hsame
      · rename_i hother
        exact iff_of_false nofun hother

/-- A name that is not accepted is refused for its value, be it for what cannot be encoded. -/
theorem checkAgentName_refused {name : String} (h : checkAgentName name ≠ .ok ()) :
    ∃ m : Misuse, checkAgentName name = .error (.misuse m) ∧
      m.name ∈ ["ValueError", "UnicodeEncodeError"] := by
  revert h
  unfold checkAgentName
  split
  · exact fun _ => ⟨_, rfl, by decide⟩
  · split
    · exact fun _ => ⟨_, rfl, by simp [Misuse.name]⟩
    · split
      · exact fun h => absurd rfl h
      · exact fun _ => ⟨_, rfl, by simp [Misuse.name]⟩

/-- **The names that are accepted.** A name is accepted if and only if it is not empty and each of
its characters is an ASCII letter or digit or one of `_`, `.`, `-` and `~`. The same goes for code
points, whatever they are and however a text holds them. Any other name is refused, with an error
about its value. -/
theorem name_accepted_iff (name : String) :
    (checkAgentName name = .ok () ↔ name ≠ "" ∧ ∀ c ∈ name.toList, Unreserved c) ∧
    (∀ ns : List Nat, (∀ n ∈ ns, n < 0x110000) → name.toList = Text.spellAll ns →
      (checkAgentName name = .ok () ↔
        ns ≠ [] ∧ ∀ n ∈ ns, ∃ c, Unreserved c ∧ c.toNat = n)) ∧
    (checkAgentName name ≠ .ok () →
      ∃ m : Misuse, checkAgentName name = .error (.misuse m) ∧
        m.name ∈ ["ValueError", "UnicodeEncodeError"]) := by
  refine ⟨checkAgentName_eq_ok_iff name, fun ns hns hname => ?_, checkAgentName_refused⟩
  have hempty : name = "" ↔ ns = [] := by
    rw [← String.toList_eq_nil_iff, hname]
    constructor
    · intro h
      rw [← Text.codes_spell hns, h]
      rfl
    · rintro rfl
      rfl
  rw [checkAgentName_eq_ok_iff, hname, Text.unreserved_spellAll_iff hns, ne_eq, hempty]

/-- The Kelvin sign is not its encoding, though its lower case is a `k`; a percent sign is not
excused by the digits behind it, and half of a surrogate pair is no character to encode. -/
theorem kelvin_refused :
    Text.lower "\u212a" = "k" ∧ checkAgentName "k.9_~-" = .ok () ∧
    (∀ n ∈ [0x212a], n < 0x110000) ∧ "\u212a".toList = Text.spellAll [0x212a] ∧
    (∃ m : Misuse, checkAgentName "\u212a" = .error (.misuse m) ∧
      m.name ∈ ["ValueError", "UnicodeEncodeError"]) ∧
    checkAgentName "%6b" ≠ .ok () ∧
    (∀ n ∈ [0x6b, 0xd800], n < 0x110000) ∧
    checkAgentName (String.ofList (Text.spellAll [0x6b, 0xd800])) ≠ .ok () := by
  have hown : ∀ c ∈ "k.9_~-".toList, Unreserved c := List.all_iff_forall_prop.mp (by decide)
  have hcode {n : Nat} (hn : 128 ≤ n) : ¬∃ c, Unreserved c ∧ c.toNat = n := by
    rintro ⟨c, hc, rfl⟩
    exact absurd hc.lt (Nat.not_lt.mpr hn)
  have hkelvin : ∀ n ∈ [0x212a], n < 0x110000 := by simp
  have hspelled : "\u212a".toList = Text.spellAll [0x212a] := by decide
  have hhalf : ∀ n ∈ [0x6b, 0xd800], n < 0x110000 := by simp
  obtain ⟨-, hcodes, hrefused⟩ := name_accepted_iff "\u212a"
  have hsign : checkAgentName "\u212a" ≠ .ok () := fun h =>
    hcode (by decide) (((hcodes _ hkelvin hspelled).mp h).2 0x212a List.mem_cons_self)
  refine ⟨by decide +kernel, (name_accepted_iff _).1.mpr ⟨by decide, hown⟩, hkelvin, hspelled,
    hrefused hsign, fun h => ?_, hhalf, fun h => ?_⟩
  · exact absurd (((name_accepted_iff _).1.mp h).2 '%' (by decide)) (by decide)
  · have hall := ((name_accepted_iff _).2.1 _ hhalf String.toList_ofList).mp h
    exact hcode (by decide) (hall.2 0xd800 (by simp))

end AgentGateway
