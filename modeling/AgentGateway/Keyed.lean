/-! Lists of entries by key, in the order of the keys' first appearance.

`put` keeps that order: a key that is already there keeps its place and takes the
new entry, a new key goes to the end. -/
namespace AgentGateway

abbrev Keyed (α : Type) := List (String × α)

namespace Keyed
variable {α : Type}

def get? : Keyed α → String → Option α
  | [], _ => none
  | (k, v) :: rest, key => if k = key then some v else get? rest key

def has (es : Keyed α) (key : String) : Bool := (get? es key).isSome

/-- Set an entry, in its place when it is there and at the end otherwise. -/
def put : Keyed α → String → α → Keyed α
  | [], key, v => [(key, v)]
  | (k, w) :: rest, key, v => if k = key then (key, v) :: rest else (k, w) :: put rest key v

/-- Set every entry of `more`, one after the other. -/
def merge (es more : Keyed α) : Keyed α := more.foldl (fun acc e => put acc e.1 e.2) es

/-- The entries under none of the given keys. -/
def without (es : Keyed α) (keys : List String) : Keyed α := es.filter fun e => !keys.contains e.1

def keys (es : Keyed α) : List String := es.map (·.1)

def values (es : Keyed α) : List α := es.map (·.2)

theorem get?_put (es : Keyed α) (key : String) (v : α) (k : String) :
    get? (put es key v) k = if key = k then some v else get? es k := by
  induction es with
  | nil => simp only [put, get?]
  | cons e rest ih =>
    obtain ⟨l, w⟩ := e
    by_cases h : l = key
    · subst h
      by_cases hk : l = k <;> simp [put, get?, hk]
    · simp only [put, h, if_false, get?, ih]
      by_cases hl : l = k
      · subst hl; simp [Ne.symm h]
      · simp [hl]

theorem keys_put (es : Keyed α) (key : String) (v : α) :
    keys (put es key v) = if key ∈ keys es then keys es else keys es ++ [key] := by
  induction es with
  | nil => simp [put, keys]
  | cons e rest ih =>
    obtain ⟨l, w⟩ := e
    by_cases h : l = key
    · subst h; simp [put, keys]
    · have hne : key ≠ l := fun e => h e.symm
      simp only [put, h, if_false, keys, List.map_cons, List.mem_cons, hne, false_or] at ih ⊢
      by_cases hk : key ∈ rest.map (·.1) <;> simp [ih, hk]

/-- No key is there twice. -/
theorem nodup_keys_put (es : Keyed α) (key : String) (v : α) (h : (keys es).Nodup) :
    (keys (put es key v)).Nodup := by
  rw [keys_put]
  split
  · exact h
  · rename_i hk
    rw [List.nodup_append]
    refine ⟨h, by simp, ?_⟩
    intro a ha b hb e
    simp only [List.mem_singleton] at hb
    exact hk (hb ▸ e ▸ ha)

theorem nodup_keys_merge (es more : Keyed α) (h : (keys es).Nodup) :
    (keys (merge es more)).Nodup := by
  induction more generalizing es with
  | nil => exact h
  | cons e rest ih => exact ih _ (nodup_keys_put es e.1 e.2 h)

end Keyed
end AgentGateway
