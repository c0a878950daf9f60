import AgentGateway.Keyed
import Mathlib.Data.List.Nodup

/-! Where entries by key come from.

What `put` and `merge` leave under a key was put there under it. Entries whose keys are there
once each are kept as they stand (`merge_nil_of_nodup`), and one of them is found by its key
(`get?_eq_some_iff`). -/
namespace AgentGateway.Keyed
variable {α β : Type}

@[simp] theorem keys_append (es more : Keyed α) : keys (es ++ more) = keys es ++ keys more :=
  List.map_append

theorem mem_keys {es : Keyed α} {key : String} : key ∈ keys es ↔ ∃ v, (key, v) ∈ es := by
  simp [keys]

theorem get?_eq_none {es : Keyed α} {key : String} (h : key ∉ keys es) : get? es key = none := by
  induction es with
  | nil => rfl
  | cons e rest ih =>
    obtain ⟨k, v⟩ := e
    simp only [keys, List.map_cons, List.mem_cons, not_or] at h
    simp only [get?, if_neg (Ne.symm h.1)]
    exact ih h.2

theorem has_eq_true_iff {es : Keyed α} {key : String} : has es key = true ↔ key ∈ keys es := by
  induction es with
  | nil => simp [has, get?, keys]
  | cons e rest ih =>
    by_cases h : e.1 = key
    · simp [has, get?, keys, h]
    · have hrest : has (e :: rest) key = has rest key := by simp [has, get?, h]
      have hkeys : key ∈ keys (e :: rest) ↔ key ∈ keys rest := by simp [keys, Ne.symm h]
      rw [hrest, hkeys, ih]

theorem get?_append (es more : Keyed α) (key : String) :
    get? (es ++ more) key = (get? es key).or (get? more key) := by
  induction es with
  | nil => rfl
  | cons e rest ih =>
    by_cases h : e.1 = key <;> simp [get?, h, ih]

theorem mem_of_get? {es : Keyed α} {key : String} {v : α} (h : get? es key = some v) :
    (key, v) ∈ es := by
  induction es with
  | nil => cases h
  | cons e rest ih =>
    obtain ⟨k, w⟩ := e
    by_cases hk : k = key
    · simp only [get?, hk, if_true, Option.some.injEq] at h
      simp [hk, h]
    · simp only [get?, hk, if_false] at h
      exact List.mem_cons_of_mem _ (ih h)

/-- An entry whose key is there once is the one that is found. -/
theorem get?_eq_some_iff {es : Keyed α} (h : (keys es).Nodup) {key : String} {v : α} :
    get? es key = some v ↔ (key, v) ∈ es := by
  refine ⟨mem_of_get?, fun hmem => ?_⟩
  induction es with
  | nil => cases hmem
  | cons e rest ih =>
    obtain ⟨k, w⟩ := e
    obtain ⟨hhead, hrest⟩ := List.nodup_cons.mp h
    obtain hsame | hmem := List.mem_cons.mp hmem
    · cases hsame
      simp [get?]
    · have hne : k ≠ key := fun same => hhead (mem_keys.mpr ⟨v, same ▸ hmem⟩)
      simp only [get?, hne, if_false]
      exact ih hrest hmem

/-! ### Entries without some keys -/

theorem without_cons (e : String × α) (rest : Keyed α) (gone : List String) :
    without (e :: rest) gone =
      if e.1 ∈ gone then without rest gone else e :: without rest gone := by
  by_cases h : e.1 ∈ gone <;> simp [without, h]

theorem get?_without (es : Keyed α) {gone : List String} {key : String} (h : key ∉ gone) :
    get? (es.without gone) key = get? es key := by
  induction es with
  | nil => rfl
  | cons e rest ih =>
    by_cases hgone : e.1 ∈ gone
    · have hne : e.1 ≠ key := fun same => h (same ▸ hgone)
      simp [without_cons, hgone, get?, hne, ih]
    · simp [without_cons, hgone, get?, ih]

theorem not_mem_keys_without (es : Keyed α) {gone : List String} {key : String} (h : key ∈ gone) :
    key ∉ keys (es.without gone) := by
  rw [mem_keys]
  rintro ⟨v, hv⟩
  simp [without, h] at hv

theorem without_eq_self {es : Keyed α} {gone : List String} (h : ∀ key ∈ gone, key ∉ keys es) :
    es.without gone = es := by
  refine List.filter_eq_self.mpr fun e he => ?_
  have hgone : e.1 ∉ gone := fun hmem => h e.1 hmem (List.mem_map_of_mem he)
  simpa using hgone

@[simp] theorem without_append (es more : Keyed α) (gone : List String) :
    without (es ++ more) gone = without es gone ++ without more gone := List.filter_append ..

theorem keys_without_sublist (es : Keyed α) (gone : List String) :
    (keys (es.without gone)).Sublist (keys es) := List.filter_sublist.map _

/-! ### Entries that are put -/

theorem mem_put {es : Keyed α} {key : String} {v : α} {e : String × α} (h : e ∈ put es key v) :
    e ∈ es ∨ e = (key, v) := by
  induction es with
  | nil => exact .inr (List.mem_singleton.mp h)
  | cons e' rest ih =>
    by_cases hk : e'.1 = key
    · simp only [put, hk, if_true, List.mem_cons] at h
      obtain rfl | h := h
      · exact .inr rfl
      · exact .inl (List.mem_cons_of_mem _ h)
    · simp only [put, hk, if_false, List.mem_cons] at h
      obtain rfl | h := h
      · exact .inl List.mem_cons_self
      · exact (ih h).imp_left (List.mem_cons_of_mem _)

theorem put_of_not_mem {es : Keyed α} {key : String} (h : key ∉ keys es) (v : α) :
    put es key v = es ++ [(key, v)] := by
  induction es with
  | nil => rfl
  | cons e rest ih =>
    obtain ⟨hne, hrest⟩ : ¬key = e.1 ∧ key ∉ keys rest := by simpa [keys] using h
    simp [put, Ne.symm hne, ih hrest]

theorem merge_append (es more others : Keyed α) :
    merge es (more ++ others) = merge (merge es more) others := List.foldl_append

theorem mem_merge {es more : Keyed α} {e : String × α} (h : e ∈ merge es more) :
    e ∈ es ∨ e ∈ more := by
  induction more generalizing es with
  | nil => exact .inl h
  | cons e' rest ih =>
    obtain h | h := ih h
    · refine (mem_put h).imp_right ?_
      rintro rfl
      exact List.mem_cons_self
    · exact .inr (List.mem_cons_of_mem _ h)

theorem mem_keys_put {es : Keyed α} {key k : String} {v : α} :
    k ∈ keys (put es key v) ↔ k ∈ keys es ∨ k = key := by
  rw [keys_put]
  split
  · rename_i h
    exact ⟨.inl, fun hk => hk.elim id fun same => same ▸ h⟩
  · simp

theorem mem_keys_merge {es more : Keyed α} {key : String} :
    key ∈ keys (merge es more) ↔ key ∈ keys es ∨ key ∈ keys more := by
  induction more generalizing es with
  | nil => simp [merge, keys]
  | cons e rest ih =>
    have hstep : merge es (e :: rest) = merge (put es e.1 e.2) rest := rfl
    have hcons : keys (e :: rest) = e.1 :: keys rest := rfl
    rw [hstep, ih, mem_keys_put, hcons, List.mem_cons, or_assoc]

/-- Entries that all stand under keys of their own are put one after the other. -/
theorem merge_of_nodup {es more : Keyed α} (h : (keys (es ++ more)).Nodup) :
    merge es more = es ++ more := by
  induction more generalizing es with
  | nil => exact (List.append_nil _).symm
  | cons e rest ih =>
    have hsplit : es ++ e :: rest = (es ++ [e]) ++ rest := by simp
    have hnew : e.1 ∉ keys es := by
      rw [keys_append, List.nodup_append] at h
      exact fun hmem => h.2.2 _ hmem _ (by simp [keys]) rfl
    calc merge es (e :: rest) = merge (put es e.1 e.2) rest := rfl
      _ = merge (es ++ [e]) rest := by rw [put_of_not_mem hnew]
      _ = es ++ e :: rest := by rw [ih (hsplit ▸ h), ← hsplit]

theorem merge_nil_of_nodup {es : Keyed α} (h : (keys es).Nodup) : merge [] es = es :=
  merge_of_nodup h

end AgentGateway.Keyed
