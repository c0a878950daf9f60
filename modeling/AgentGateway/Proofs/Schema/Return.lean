import AgentGateway.Proofs.Response.Numbers
import AgentGateway.Proofs.Schema.Reading
import AgentGateway.Proofs.Value.Wire

/-! What is read, written, and read again.

Reading is lax, and what is read is kept in its written form. So a second reading should give
the same as the first. `Returns` says of a reader and a writer on which of the things that are
read it does. A reader made of others returns what its parts return: the lemmas follow the
readers for fields, lists and records. -/
namespace AgentGateway

namespace Value

/-- The fields of an object. -/
def fields : Value → Fields
  | .object fs => fs
  | _ => []

/-! ### Documents -/

/-- Whether a value is one that a document can hold and that has no number beyond the finite
ones. -/
structure IsDocument (v : Value) : Prop where
  wellKeyed : v.wellKeyed = true
  finite : Json.finite v = true

namespace IsDocument

theorem object_iff {fs : Fields} : IsDocument (.object fs) ↔
    (Keyed.keys fs).Nodup ∧ ∀ e ∈ fs, Text.isHeld e.1 = true ∧ IsDocument e.2 := by
  have hfinite : Json.finite (.object fs) = true ↔ ∀ e ∈ fs, Json.finite e.2 = true := by
    rw [Json.finite, Json.finiteFields_eq_all, List.all_eq_true]
  constructor
  · intro h
    obtain ⟨hnodup, hentries⟩ := wellKeyed_object.mp h.wellKeyed
    exact ⟨hnodup, fun e he =>
      ⟨(hentries e he).1, (hentries e he).2, hfinite.mp h.finite e he⟩⟩
  · rintro ⟨hnodup, hentries⟩
    exact ⟨wellKeyed_object.mpr ⟨hnodup, fun e he =>
      ⟨(hentries e he).1, (hentries e he).2.wellKeyed⟩⟩,
      hfinite.mpr fun e he => (hentries e he).2.finite⟩

theorem of_get? {fs : Fields} (h : IsDocument (.object fs)) {key : String} {v : Value}
    (hv : Keyed.get? fs key = some v) : IsDocument v :=
  ((object_iff.mp h).2 _ (Keyed.mem_of_get? hv)).2

theorem without {fs : Fields} (h : IsDocument (.object fs)) (gone : List String) :
    IsDocument (.object (fs.without gone)) := by
  obtain ⟨hnodup, hentries⟩ := object_iff.mp h
  exact object_iff.mpr ⟨hnodup.sublist (Keyed.keys_without_sublist fs gone),
    fun e he => hentries e (List.mem_of_mem_filter he)⟩

theorem merge {fs more : Fields} (h : IsDocument (.object fs)) (hmore : IsDocument (.object more)) :
    IsDocument (.object (fs.merge more)) := by
  obtain ⟨hnodup, hentries⟩ := object_iff.mp h
  exact object_iff.mpr ⟨Keyed.nodup_keys_merge fs more hnodup, fun e he =>
    (Keyed.mem_merge he).elim (hentries e) ((object_iff.mp hmore).2 e)⟩

theorem of_mem {vs : List Value} (h : IsDocument (.list vs)) {v : Value} (hv : v ∈ vs) :
    IsDocument v := by
  refine ⟨wellKeyed_list.mp h.wellKeyed v hv, ?_⟩
  have hfinite := h.finite
  rw [Json.finite, Json.finiteList_eq_all, List.all_eq_true] at hfinite
  exact hfinite v hv

end IsDocument

mutual

/-- A value without numbers beyond the finite ones goes out as it is. -/
theorem onWire_eq_self {v : Value} (h : Json.finite v = true) : v.onWire = v := by
  cases v with
  | float d =>
    rw [Json.finite] at h
    rw [onWire, if_pos h]
  | list xs =>
    rw [Json.finite] at h
    rw [onWire, onWireList_eq_self h]
  | object fs =>
    rw [Json.finite] at h
    rw [onWire, onWireFields_eq_self h]
  | null | bool | int | text | moment => rfl

theorem onWireList_eq_self {xs : List Value} (h : Json.finiteList xs = true) :
    onWireList xs = xs := by
  cases xs with
  | nil => rfl
  | cons x xs =>
    rw [Json.finiteList, Bool.and_eq_true] at h
    rw [onWireList, onWire_eq_self h.1, onWireList_eq_self h.2]

theorem onWireFields_eq_self {fs : List (String × Value)} (h : Json.finiteFields fs = true) :
    onWireFields fs = fs := by
  cases fs with
  | nil => rfl
  | cons e rest =>
    rw [Json.finiteFields, Bool.and_eq_true] at h
    rw [onWireFields, onWire_eq_self h.1, onWireFields_eq_self h.2]

end

end Value

namespace Schema
variable {α : Type} {read : Value → Checked α} {write : α → Value} {P : α → Prop}

/-- Of what is read from a document, that which `P` holds of, and no more, is read once more
when it is written. -/
def Returns (read : Value → Checked α) (write : α → Value) (P : α → Prop) : Prop :=
  ∀ ⦃v : Value⦄ ⦃a : α⦄, v.IsDocument → read v = .ok a → (read (write a) = .ok a ↔ P a)

/-- The items of what is a text or a list. -/
def listed : String ⊕ List α → List α
  | .inl _ => []
  | .inr as => as

namespace Returns

/-! ### Scalars and values of unknown shape -/

theorem of_forall (h : ∀ a, read (write a) = .ok a) : Returns read write fun _ => True :=
  fun _ a _ _ => iff_true_intro (h a)

theorem text : Returns text .text fun _ => True := of_forall fun _ => rfl

theorem int : Returns int .int fun _ => True := of_forall fun _ => rfl

theorem bool : Returns bool .bool fun _ => True := of_forall fun _ => rfl

theorem float : Returns float .float fun _ => True := of_forall fun _ => rfl

theorem words (c : Complaint) (table : List String) :
    Returns (oneOf c (table.map fun w => (w, w))) .text fun _ => True := by
  intro v s _ hread
  obtain ⟨rfl, -⟩ := oneOf_words_eq_ok_iff.mp hread
  exact iff_true_intro hread

theorem any : Returns any Value.onWire fun _ => True := by
  intro v a hv hread
  obtain rfl := Checked.ok.inj hread
  refine iff_true_intro ?_
  rw [Value.onWire_eq_self hv.finite]
  rfl

theorem values :
    Returns (list Schema.any) (fun vs => .list (Value.onWireList vs)) fun _ => True := by
  intro v as hv hread
  obtain ⟨vs, rfl⟩ := isList_of_list hread
  have has : vs = as := by
    have hmap := list_eq_ok_iff.mp hread
    exact (List.map_injective_iff.mpr fun _ _ => Checked.ok.inj) hmap
  subst has
  have hfinite := hv.finite
  rw [Json.finite] at hfinite
  refine iff_true_intro ?_
  show Schema.list Schema.any (.list (Value.onWireList vs)) = .ok vs
  rw [Value.onWireList_eq_self hfinite]
  exact hread

/-- An object comes back where its keys can be encoded. -/
theorem object : Returns object (fun fs => .underTexts (Value.onWireFields fs)) KeysEncodable := by
  intro v fs hv hread
  obtain rfl := object_eq_ok_iff.mp hread
  have hfinite := hv.finite
  rw [Json.finite] at hfinite
  show Schema.object (.underTexts (Value.onWireFields fs)) = .ok fs ↔ _
  rw [Value.onWireFields_eq_self hfinite, object_eq_ok_iff]
  exact Value.underTexts_eq_self_iff hv.wellKeyed

/-! ### Fields -/

theorem optional (h : Returns read write P) {fs : Fields} (hfs : Value.IsDocument (.object fs))
    {found name : String} {default a : α}
    (hdefault : read (write default) = .ok default ↔ P default)
    (hread : Schema.optional fs found read default = .ok a) {out : Fields}
    (hout : Keyed.get? out name = some (write a)) :
    Schema.optional out name read default = .ok a ↔ P a := by
  have hagain : Schema.optional out name read default = .ok a ↔ read (write a) = .ok a := by
    simp only [Schema.optional, hout, Checked.under_ok]
  rw [hagain]
  unfold Schema.optional at hread
  split at hread
  · rename_i v hv
    exact h (hfs.of_get? hv) ((Checked.under_ok _ _ _).mp hread)
  · obtain rfl := Checked.ok.inj hread
    exact hdefault

theorem required (h : Returns read write P) {fs : Fields} (hfs : Value.IsDocument (.object fs))
    {found name : String} {a : α} (hread : Schema.required fs found read = .ok a) {out : Fields}
    (hout : Keyed.get? out name = some (write a)) :
    Schema.required out name read = .ok a ↔ P a := by
  have hagain : Schema.required out name read = .ok a ↔ read (write a) = .ok a := by
    simp only [Schema.required, hout, Checked.under_ok]
  rw [hagain]
  rw [Schema.required, Checked.under_ok] at hread
  split at hread
  · rename_i v hv
    exact h (hfs.of_get? hv) hread
  · cases hread

theorem nullable (h : Returns read write P) (hnull : ∀ a, write a ≠ .null) :
    Returns (nullable read) (.ofOption write) fun o => ∀ a ∈ o, P a := by
  intro v o hv hread
  cases o with
  | none => exact iff_of_true rfl (by simp)
  | some a =>
    have hagain : Schema.nullable read (write a) = .ok (some a) ↔ read (write a) = .ok a := by
      have hmap : Schema.nullable read (write a) = (read (write a)).map some := by
        unfold Schema.nullable
        split
        · exact absurd ‹_› (hnull a)
        · rfl
      simp [hmap, Checked.map_eq_ok_iff]
    unfold Schema.nullable at hread
    split at hread
    · cases hread
    · obtain ⟨a', ha, hsame⟩ := Checked.map_eq_ok_iff.mp hread
      obtain rfl := Option.some.inj hsame
      simpa [Value.ofOption] using hagain.trans (h hv ha)

theorem maybe (h : Returns read write P) (hnull : ∀ a, write a ≠ .null) {fs : Fields}
    (hfs : Value.IsDocument (.object fs)) {found name : String} {o : Option α}
    (hread : Schema.maybe fs found read = .ok o) {out : Fields}
    (hout : Keyed.get? out name = some (.ofOption write o)) :
    Schema.maybe out name read = .ok o ↔ ∀ a ∈ o, P a :=
  (h.nullable hnull).optional hfs (iff_of_true rfl (by simp)) hread hout

/-! ### Fields of which nothing is lost -/

section
variable (h : Returns read write fun _ => True) {fs out : Fields}
  (hfs : Value.IsDocument (.object fs)) {found name : String}
include h hfs

theorem optional_again {default a : α} (hdefault : read (write default) = .ok default)
    (hread : Schema.optional fs found read default = .ok a)
    (hout : Keyed.get? out name = some (write a)) :
    Schema.optional out name read default = .ok a :=
  (h.optional hfs (iff_true_intro hdefault) hread hout).mpr trivial

theorem required_again {a : α} (hread : Schema.required fs found read = .ok a)
    (hout : Keyed.get? out name = some (write a)) : Schema.required out name read = .ok a :=
  (h.required hfs hread hout).mpr trivial

theorem maybe_again (hnull : ∀ a, write a ≠ .null) {o : Option α}
    (hread : Schema.maybe fs found read = .ok o)
    (hout : Keyed.get? out name = some (.ofOption write o)) :
    Schema.maybe out name read = .ok o :=
  (h.maybe hnull hfs hread hout).mpr fun _ _ => trivial

end

/-! ### Lists -/

theorem list (h : Returns read write P) :
    Returns (list read) (fun as => .list (as.map write)) fun as => ∀ a ∈ as, P a := by
  intro v as hv hread
  obtain ⟨vs, rfl⟩ := isList_of_list hread
  rw [list_eq_ok_iff] at hread ⊢
  rw [List.map_map, List.map_inj_left]
  refine forall₂_congr fun a ha => ?_
  obtain ⟨v, hv', hsame⟩ : ∃ v ∈ vs, read v = .ok a := by
    have hmem : Checked.ok a ∈ vs.map read := hread ▸ List.mem_map_of_mem ha
    exact List.mem_map.mp hmem
  exact h (hv.of_mem hv') hsame

theorem textOrList (h : Returns read write P) :
    Returns (textOrList read) (Sum.elim .text fun as => .list (as.map write))
      fun x => ∀ a ∈ listed x, P a := by
  intro v x hv hread
  cases x with
  | inl s => exact iff_of_true rfl (List.forall_mem_nil _)
  | inr as =>
    have hagain (w : List Value) : Schema.textOrList read (.list w) = .ok (.inr as) ↔
        Schema.list read (.list w) = .ok as := by
      unfold Schema.textOrList Schema.text
      cases Schema.list read (.list w) <;> simp [Checked.fail]
    have hlist : Schema.list read v = .ok as := by
      unfold Schema.textOrList at hread
      split at hread
      · cases hread
      · obtain rfl := Sum.inr.inj (Checked.ok.inj hread)
        assumption
      · cases hread
    exact (hagain _).trans (h.list hv hlist)

end Returns

/-! ### Records -/

/-- Fields that a record keeps: none is one that it knows, and they go out as they are. -/
structure Kept (known : List String) (extra : Fields) : Prop where
  encodable : KeysEncodable extra
  apart : ∀ key ∈ known, key ∉ Keyed.keys extra
  wire : Value.onWireFields extra = extra

namespace Kept
variable {known : List String} {fs extra base : Fields}

theorem of_keeps (hfs : Value.IsDocument (.object fs)) (h : Keeps known fs extra) :
    Kept known extra := by
  obtain ⟨hkeys, rfl⟩ := h
  exact ⟨fun key hkey => hkeys key ((Keyed.keys_without_sublist fs known).subset hkey),
    fun _ => Keyed.not_mem_keys_without fs,
    Value.onWireFields_eq_self (hfs.without known).finite⟩

/-- What is kept is kept again where it goes out behind what the record knows. -/
theorem keeps (h : Kept known extra) (hbase : Keyed.keys base = known)
    (hwords : ∀ key ∈ known, Text.IsWord key) :
    Keeps known (base ++ Value.onWireFields extra) extra := by
  have hgone : base.without known = [] := by
    refine List.filter_eq_nil_iff.mpr fun e he => ?_
    have hmem : e.1 ∈ known := hbase ▸ List.mem_map_of_mem he
    simpa using hmem
  constructor
  · intro key hkey
    rw [h.wire, Keyed.keys_append, List.mem_append, hbase] at hkey
    exact hkey.elim (fun hkey => (hwords key hkey).isEncodable) (h.encodable key)
  · rw [Keyed.without_append, hgone, h.wire]
    exact Keyed.without_eq_self h.apart

end Kept

end Schema
end AgentGateway
