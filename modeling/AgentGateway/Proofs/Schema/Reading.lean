import AgentGateway.Proofs.Keyed
import AgentGateway.Schema.Shape

/-! When reading succeeds, and with what.

A reader made of others succeeds where they all do. Each `_eq_ok_iff` takes one such reader
apart, so a record's reader comes apart field by field. -/
namespace AgentGateway

theorem Checked.map_eq_ok_iff {α β : Type} {f : α → β} {c : Checked α} {b : β} :
    map f c = ok b ↔ ∃ a, c = ok a ∧ f a = b := by
  cases c <;> simp [map]

/-- A check that gives nothing succeeds with that. -/
theorem Checked.exists_ok_unit {c : Checked Unit} : (∃ u, c = .ok u) ↔ c = .ok () :=
  ⟨fun ⟨(), h⟩ => h, fun h => ⟨(), h⟩⟩

/-- Items are all checked where each is. -/
theorem Checked.each_eq_ok_iff {α : Type} {items : List (Step × Checked α)} {as : List α} :
    each items = ok as ↔ items.map (·.2) = as.map ok := by
  induction items generalizing as with
  | nil => cases as <;> simp [each]
  | cons item rest ih =>
    have hcons : each (item :: rest) = .ap (.map .cons (.under item.1 item.2)) (each rest) := rfl
    rw [hcons, ap_eq_ok_iff]
    cases as <;> simp [ih, map_eq_ok_iff, under_ok]

namespace Schema
variable {α : Type}

theorem text_eq_ok_iff {v : Value} {s : String} : text v = .ok s ↔ v = .text s := by
  cases v <;> simp [text, Checked.fail]

theorem object_eq_ok_iff {v : Value} {fs : Fields} : object v = .ok fs ↔ v = .object fs := by
  cases v <;> simp [object, Checked.fail]

theorem lookup_words (words : List String) (t : String) :
    (words.map fun w => (w, w)).lookup t = if t ∈ words then some t else none := by
  induction words with
  | nil => rfl
  | cons w rest ih =>
    by_cases h : t = w
    · simp [h]
    · simp [List.lookup_cons, beq_false_of_ne h, h, ih]

/-- One of some words is read as it stands. -/
theorem oneOf_words_eq_ok_iff {c : Complaint} {words : List String} {v : Value} {s : String} :
    oneOf c (words.map fun w => (w, w)) v = .ok s ↔ v = .text s ∧ s ∈ words := by
  cases v with
  | text t =>
    by_cases h : t ∈ words
    · simp only [oneOf, lookup_words, if_pos h, Checked.ok.injEq, Value.text.injEq]
      exact ⟨fun hsame => ⟨hsame, hsame ▸ h⟩, And.left⟩
    · have hfails : oneOf c (words.map fun w => (w, w)) (.text t) ≠ .ok s := by
        simp only [oneOf, lookup_words, if_neg h, encoded]
        split <;> rintro ⟨⟩
      refine iff_of_false hfails ?_
      rintro ⟨⟨⟩, hs⟩
      exact h hs
  | _ => simp [oneOf, Checked.fail]

theorem map_snd_numbered (n : Nat) (vs : List Value) : (numbered n vs).map (·.2) = vs := by
  induction vs generalizing n with
  | nil => rfl
  | cons v vs ih => simp [numbered, ih]

/-- A list is read where all its items are. -/
theorem list_eq_ok_iff {read : Value → Checked α} {vs : List Value} {as : List α} :
    list read (.list vs) = .ok as ↔ vs.map read = as.map .ok := by
  have hitems : (numbered 0 vs).map (fun e => read e.2) = vs.map read := by
    rw [← Function.comp_def, ← List.map_map, map_snd_numbered]
  refine Checked.each_eq_ok_iff.trans ?_
  rw [List.map_map, ← hitems]
  exact Iff.rfl

theorem isList_of_list {read : Value → Checked α} {v : Value} {as : List α}
    (h : list read v = .ok as) : ∃ vs, v = .list vs := by
  cases v with
  | list vs => exact ⟨vs, rfl⟩
  | _ => cases h

/-- Texts under keys are read as they stand. -/
theorem dict_text_eq_ok_iff {v : Value} {m : Keyed String} :
    dict text v = .ok m ↔ v = .object (m.map fun e => (e.1, .text e.2)) := by
  have hentry (e : String × Value) (a : String × String) :
      (text e.2).map (fun s => (e.1, s)) = .ok a ↔ e = (a.1, .text a.2) := by
    rw [Checked.map_eq_ok_iff]
    constructor
    · rintro ⟨s, hs, rfl⟩
      exact Prod.ext rfl (text_eq_ok_iff.mp hs)
    · rintro rfl
      exact ⟨a.2, rfl, rfl⟩
  have hentries (fs : Fields) :
      fs.map (fun e => (text e.2).map fun s => (e.1, s)) = m.map .ok ↔
        fs = m.map fun e => (e.1, .text e.2) := by
    induction fs generalizing m with
    | nil => cases m <;> simp
    | cons e rest ih => cases m <;> simp [ih, hentry]
  cases v with
  | object fs =>
    refine Checked.each_eq_ok_iff.trans ?_
    rw [List.map_map, Value.object.injEq]
    exact hentries fs
  | _ => simp [dict, Checked.fail]

/-! ### Records -/

/-- Whether the keys of an object can all be encoded. -/
def KeysEncodable (es : Keyed α) : Prop :=
  ∀ key ∈ Keyed.keys es, Text.isEncodable key.toList = true

theorem keeping_eq_ok_iff {read : Fields → Checked α} {fs : Fields} {a : α} :
    keeping read fs = .ok a ↔ KeysEncodable fs ∧ read fs = .ok a := by
  have hkeys : (fs.all fun e => Text.isEncodable e.1.toList) = true ↔ KeysEncodable fs := by
    simp [KeysEncodable, Keyed.keys]
  unfold keeping
  by_cases h : (fs.all fun e => Text.isEncodable e.1.toList) = true
  · rw [if_pos h]
    exact (and_iff_right (hkeys.mp h)).symm
  · rw [if_neg h]
    refine iff_of_false ?_ fun hboth => h (hkeys.mpr hboth.1)
    rintro ⟨⟩

/-- How a record keeps what it does not know: all its keys can be encoded, and it has taken
those that it knows. -/
structure Keeps (known : List String) (fs extra : Fields) : Prop where
  encodable : KeysEncodable fs
  rest : fs.without known = extra

theorem keeps_iff {known : List String} {fs extra : Fields} :
    Keeps known fs extra ↔ KeysEncodable fs ∧ fs.without known = extra :=
  ⟨fun h => ⟨h.encodable, h.rest⟩, fun h => ⟨h.1, h.2⟩⟩

theorem tagged_of_lookup {cases : List (String × (Fields → Checked α))} {fs : Fields} {tag : String}
    {read : Fields → Checked α} (htag : Keyed.get? fs "type" = some (.text tag))
    (hread : cases.lookup tag = some read) :
    tagged cases (.object fs) = Checked.under (.key tag) (read fs) := by
  simp only [tagged, htag, hread]

/-- What is read by a tag is read by one of the cases. -/
theorem exists_of_tagged {cases : List (String × (Fields → Checked α))} {v : Value} {a : α}
    (h : tagged cases v = .ok a) :
    ∃ fs tag read, v = .object fs ∧ (tag, read) ∈ cases ∧ read fs = .ok a := by
  unfold tagged at h
  split at h
  · split at h
    · cases h
    · split at h
      · rename_i fs _ tag _ _ read hread
        obtain ⟨before, after, hsplit, -⟩ := List.lookup_eq_some_iff.mp hread
        exact ⟨fs, tag, read, rfl, by simp [hsplit], (Checked.under_ok _ _ _).mp h⟩
      · cases h
    · cases h
  · cases h

theorem model_eq_ok_iff {read : Fields → Checked α} {v : Value} {a : α} :
    model read v = .ok a ↔ ∃ fs, v = .object fs ∧ read fs = .ok a := by
  cases v <;> simp [model, Checked.fail]

end Schema
end AgentGateway
