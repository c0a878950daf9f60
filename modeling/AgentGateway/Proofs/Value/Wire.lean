import AgentGateway.Proofs.Keyed
import AgentGateway.Proofs.Text.Replacement
import AgentGateway.Value.Wire

/-! What comes back after it went out.

On its way out a value of unknown shape loses what no document can hold: a number beyond the
finite ones turns into null, and what a key has no encoding for into signs of replacement.
Nothing more is lost when it goes out again (`sentFields_sentFields`). -/
namespace AgentGateway

namespace Value

/-! ### Values -/

mutual

/-- Whether every object in a value is one that a document can hold: its keys are rows of code
points, and each is there once. -/
def wellKeyed : Value → Bool
  | .list xs => wellKeyedList xs
  | .object fs => decide (Keyed.keys fs).Nodup && wellKeyedFields fs
  | _ => true
def wellKeyedList : List Value → Bool
  | [] => true
  | x :: xs => wellKeyed x && wellKeyedList xs
def wellKeyedFields : List (String × Value) → Bool
  | [] => true
  | (k, v) :: rest => Text.isHeld k && wellKeyed v && wellKeyedFields rest

end

theorem wellKeyedFields_eq_all (fs : Fields) :
    wellKeyedFields fs = fs.all fun e => Text.isHeld e.1 && wellKeyed e.2 := by
  induction fs with
  | nil => rfl
  | cons e rest ih => rw [wellKeyedFields, ih, List.all_cons]

theorem wellKeyed_list {xs : List Value} :
    wellKeyed (.list xs) = true ↔ ∀ x ∈ xs, x.wellKeyed = true := by
  have hlist : wellKeyedList xs = xs.all wellKeyed := by
    induction xs with
    | nil => rfl
    | cons x xs ih => rw [wellKeyedList, ih, List.all_cons]
  rw [wellKeyed, hlist, List.all_eq_true]

theorem wellKeyed_object {fs : Fields} : wellKeyed (.object fs) = true ↔
    (Keyed.keys fs).Nodup ∧ ∀ e ∈ fs, Text.isHeld e.1 = true ∧ wellKeyed e.2 = true := by
  simp [wellKeyed, wellKeyedFields_eq_all]

theorem wellKeyed_of_get? {fs : Fields} (h : wellKeyed (.object fs) = true) {key : String}
    {v : Value} (hv : Keyed.get? fs key = some v) : v.wellKeyed = true :=
  ((wellKeyed_object.mp h).2 _ (Keyed.mem_of_get? hv)).2

theorem wellKeyed_without {fs : Fields} (h : wellKeyed (.object fs) = true)
    (gone : List String) : wellKeyed (.object (fs.without gone)) = true := by
  obtain ⟨hnodup, hentries⟩ := wellKeyed_object.mp h
  exact wellKeyed_object.mpr ⟨hnodup.sublist (Keyed.keys_without_sublist fs gone),
    fun e he => hentries e (List.mem_of_mem_filter he)⟩

/-- A field more, under a word that is new. -/
theorem wellKeyed_append {fs : Fields} (h : wellKeyed (.object fs) = true) {word : String}
    (hword : Text.IsWord word) (hnew : word ∉ Keyed.keys fs) {v : Value} (hv : v.wellKeyed = true) :
    wellKeyed (.object (fs ++ [(word, v)])) = true := by
  obtain ⟨hnodup, hentries⟩ := wellKeyed_object.mp h
  refine wellKeyed_object.mpr ⟨?_, List.forall_mem_append.mpr ⟨hentries, ?_⟩⟩
  · rw [Keyed.keys_append]
    exact List.Nodup.append hnodup (by simp [Keyed.keys]) (by simpa [Keyed.keys] using hnew)
  · simpa using ⟨hword.isHeld, hv⟩

theorem onWireList_eq_map (xs : List Value) : onWireList xs = xs.map onWire := by
  induction xs with
  | nil => rfl
  | cons x xs ih => rw [onWireList, ih, List.map_cons]

theorem onWireFields_eq_map (fs : Fields) : onWireFields fs = fs.map fun e => (e.1, e.2.onWire) := by
  induction fs with
  | nil => rfl
  | cons e rest ih => rw [onWireFields, ih, List.map_cons]

@[simp] theorem keys_onWireFields (fs : Fields) : Keyed.keys (onWireFields fs) = Keyed.keys fs := by
  rw [onWireFields_eq_map, Keyed.keys, List.map_map]
  rfl

theorem onWireFields_append (fs more : Fields) :
    onWireFields (fs ++ more) = onWireFields fs ++ onWireFields more := by
  simp only [onWireFields_eq_map, List.map_append]

theorem get?_onWireFields (fs : Fields) (key : String) :
    Keyed.get? (onWireFields fs) key = (Keyed.get? fs key).map onWire := by
  induction fs with
  | nil => rfl
  | cons e rest ih =>
    by_cases h : e.1 = key <;> simp [onWireFields, Keyed.get?, h, ih]

theorem present?_eq_some {v w : Value} : v.present? = some w ↔ v = w ∧ v ≠ .null := by
  cases v <;> simp [present?]

theorem onWire_eq_null {v : Value} :
    v.onWire = .null ↔ v = .null ∨ ∃ d, v = .float d ∧ d.isFinite = false := by
  cases v with
  | float d => cases h : d.isFinite <;> simp [onWire, h]
  | null | bool | int | text | moment | list | object => simp [onWire]

theorem onWire_eq_text {v : Value} {s : String} : v.onWire = .text s ↔ v = .text s := by
  cases v with
  | float d => cases h : d.isFinite <;> simp [onWire, h]
  | null | bool | int | text | moment | list | object => simp [onWire]

theorem onWire_eq_object {v : Value} {fs : Fields} :
    v.onWire = .object fs ↔ ∃ gs, v = .object gs ∧ onWireFields gs = fs := by
  cases v with
  | float d => cases h : d.isFinite <;> simp [onWire, h]
  | null | bool | int | text | moment | list | object => simp [onWire]

mutual

/-- What has gone out goes out as it is. -/
theorem onWire_onWire (v : Value) : v.onWire.onWire = v.onWire := by
  cases v with
  | float d =>
    cases h : d.isFinite <;> simp [onWire, h]
  | list xs =>
    rw [onWire, onWire, onWireList_onWireList xs]
  | object fs =>
    rw [onWire, onWire, onWireFields_onWireFields fs]
  | null | bool | int | text | moment => rfl

theorem onWireList_onWireList (xs : List Value) :
    onWireList (onWireList xs) = onWireList xs := by
  cases xs with
  | nil => rfl
  | cons x xs => rw [onWireList, onWireList, onWire_onWire x, onWireList_onWireList xs]

theorem onWireFields_onWireFields (fs : List (String × Value)) :
    onWireFields (onWireFields fs) = onWireFields fs := by
  cases fs with
  | nil => rfl
  | cons e rest =>
    rw [onWireFields, onWireFields, onWire_onWire e.2, onWireFields_onWireFields rest]

end

mutual

theorem wellKeyed_onWire {v : Value} (h : v.wellKeyed = true) : v.onWire.wellKeyed = true := by
  cases v with
  | float d =>
    rw [onWire]
    split <;> rfl
  | list xs =>
    rw [wellKeyed] at h
    rw [onWire, wellKeyed, wellKeyed_onWireList h]
  | object fs =>
    rw [wellKeyed, Bool.and_eq_true] at h
    rw [onWire, wellKeyed, keys_onWireFields, h.1, wellKeyed_onWireFields h.2, Bool.and_self]
  | null | bool | int | text | moment => rfl

theorem wellKeyed_onWireList {xs : List Value} (h : wellKeyedList xs = true) :
    wellKeyedList (onWireList xs) = true := by
  cases xs with
  | nil => rfl
  | cons x xs =>
    rw [wellKeyedList, Bool.and_eq_true] at h
    rw [onWireList, wellKeyedList, wellKeyed_onWire h.1, wellKeyed_onWireList h.2, Bool.and_self]

theorem wellKeyed_onWireFields {fs : List (String × Value)} (h : wellKeyedFields fs = true) :
    wellKeyedFields (onWireFields fs) = true := by
  cases fs with
  | nil => rfl
  | cons e rest =>
    rw [wellKeyedFields, Bool.and_eq_true, Bool.and_eq_true] at h
    rw [onWireFields, wellKeyedFields, h.1.1, wellKeyed_onWire h.1.2, wellKeyed_onWireFields h.2,
      Bool.and_self, Bool.and_self]

end

/-! ### Objects under keys that are texts -/

/-- The fields of an object of unknown shape as they go out under keys that are texts. -/
def sentFields (fs : Fields) : Fields :=
  Keyed.merge [] ((onWireFields fs).map fun e => (Text.replacedText e.1, e.2))

theorem nodup_keys_sentFields (fs : Fields) : (Keyed.keys (sentFields fs)).Nodup :=
  Keyed.nodup_keys_merge [] _ List.nodup_nil

/-- What is sent under a key stood under one that it is the replacement of. -/
theorem mem_sentFields {fs : Fields} {key : String} {v : Value} (h : (key, v) ∈ sentFields fs) :
    ∃ k u, (k, u) ∈ fs ∧ Text.replacedText k = key ∧ u.onWire = v := by
  obtain h | h := Keyed.mem_merge h
  · cases h
  · rw [onWireFields_eq_map, List.map_map] at h
    obtain ⟨⟨k, u⟩, hmem, hsame⟩ := List.mem_map.mp h
    cases hsame
    exact ⟨k, u, hmem, rfl, rfl⟩

theorem mem_keys_sentFields {fs : Fields} {key : String} :
    key ∈ Keyed.keys (sentFields fs) ↔ ∃ k ∈ Keyed.keys fs, Text.replacedText k = key := by
  rw [sentFields, Keyed.mem_keys_merge, ← keys_onWireFields fs]
  simp [Keyed.keys]

theorem wellKeyed_sentFields {fs : Fields} (h : wellKeyed (.object fs) = true) :
    wellKeyed (.object (sentFields fs)) = true := by
  obtain ⟨-, hentries⟩ := wellKeyed_object.mp h
  refine wellKeyed_object.mpr ⟨nodup_keys_sentFields fs, fun e he => ?_⟩
  obtain ⟨k, u, hmem, hkey, hvalue⟩ := mem_sentFields he
  rw [← hkey, ← hvalue]
  exact ⟨Text.isHeld_replacedText k, wellKeyed_onWire (hentries _ hmem).2⟩

/-- What stands under a word of the wire is sent under it, and nothing else is. -/
theorem get?_sentFields {fs : Fields} (h : wellKeyed (.object fs) = true) {word : String}
    (hword : Text.IsWord word) :
    Keyed.get? (sentFields fs) word = (Keyed.get? fs word).map onWire := by
  obtain ⟨hnodup, hentries⟩ := wellKeyed_object.mp h
  have hfound {v : Value} (hv : (word, v) ∈ sentFields fs) :
      ∃ u, Keyed.get? fs word = some u ∧ u.onWire = v := by
    obtain ⟨k, u, hmem, hkey, hvalue⟩ := mem_sentFields hv
    obtain rfl := Text.eq_of_replacedText (hentries _ hmem).1 hword hkey
    exact ⟨u, (Keyed.get?_eq_some_iff hnodup).mpr hmem, hvalue⟩
  by_cases hkeys : word ∈ Keyed.keys (sentFields fs)
  · obtain ⟨v, hv⟩ := Keyed.mem_keys.mp hkeys
    obtain ⟨u, hu, rfl⟩ := hfound hv
    rw [hu, (Keyed.get?_eq_some_iff (nodup_keys_sentFields fs)).mpr hv]
    rfl
  · have hnone : word ∉ Keyed.keys fs := fun hmem =>
      hkeys (mem_keys_sentFields.mpr ⟨word, hmem, hword.replacedText_eq⟩)
    rw [Keyed.get?_eq_none hkeys, Keyed.get?_eq_none hnone]
    rfl

/-- Keys that are made texts are left as they are where all of them can be encoded. -/
theorem underTexts_eq_self_iff {fs : Fields} (h : wellKeyed (.object fs) = true) :
    underTexts fs = .object fs ↔
      ∀ key ∈ Keyed.keys fs, Text.isEncodable key.toList = true := by
  obtain ⟨hnodup, hentries⟩ := wellKeyed_object.mp h
  have hheld (key : String) (hkey : key ∈ Keyed.keys fs) : Text.isHeld key = true := by
    obtain ⟨v, hv⟩ := Keyed.mem_keys.mp hkey
    exact (hentries _ hv).1
  have hunder : underTexts fs =
      .object (Keyed.merge [] (fs.map fun e => (Text.replacedText e.1, e.2))) := rfl
  rw [hunder, Value.object.injEq]
  constructor
  · intro hsame key hkey
    refine (Text.replacedText_eq_self_iff (hheld key hkey)).mp ?_
    rw [← hsame, Keyed.mem_keys_merge] at hkey
    obtain ⟨k, -, rfl⟩ : ∃ k ∈ Keyed.keys fs, Text.replacedText k = key := by
      simpa [Keyed.keys] using hkey
    exact Text.replacedText_replacedText k
  · intro hencodable
    have hfixed : fs.map (fun e => (Text.replacedText e.1, e.2)) = fs := by
      refine (List.map_congr_left fun e he => ?_).trans (List.map_id _)
      have hkey : e.1 ∈ Keyed.keys fs := List.mem_map_of_mem he
      exact Prod.ext ((Text.replacedText_eq_self_iff (hheld _ hkey)).mpr (hencodable _ hkey)) rfl
    rw [hfixed]
    exact Keyed.merge_nil_of_nodup hnodup

/-- Fields that have been sent are sent as they are. -/
theorem sentFields_sentFields (fs : Fields) : sentFields (sentFields fs) = sentFields fs := by
  have hsent : (onWireFields (sentFields fs)).map (fun e => (Text.replacedText e.1, e.2)) =
      sentFields fs := by
    rw [onWireFields_eq_map, List.map_map]
    refine (List.map_congr_left fun e he => ?_).trans (List.map_id _)
    obtain ⟨k, u, -, hkey, hvalue⟩ := mem_sentFields he
    have hfixed : Text.replacedText e.1 = e.1 ∧ e.2.onWire = e.2 := by
      rw [← hkey, ← hvalue]
      exact ⟨Text.replacedText_replacedText k, onWire_onWire u⟩
    exact Prod.ext hfixed.1 hfixed.2
  rw [sentFields, hsent]
  exact Keyed.merge_nil_of_nodup (nodup_keys_sentFields fs)

end Value
end AgentGateway
