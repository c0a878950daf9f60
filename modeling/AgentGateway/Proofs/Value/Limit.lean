import AgentGateway.Proofs.Value.Wire
import AgentGateway.Value.Limit

/-! How far a descent comes.

What stands in the way of a descent into a list or an object is that there is no level left, or
something further down (`limitWithin_list`, `limitWithin_object`). A value that has gone out is
nowhere deeper than before, so it is within every limit that it was within (`limitWithin_onWire`). -/
namespace AgentGateway.Value
variable {d : Descent} {room : Nat}

theorem limitInList_eq_none_iff {xs : List Value} :
    limitInList d room xs = none ↔ ∀ x ∈ xs, limitWithin d room x = none := by
  induction xs with
  | nil => simp [limitInList]
  | cons x xs ih => rw [limitInList, Option.or_eq_none_iff, ih, List.forall_mem_cons]

theorem limitInFields_eq_none_iff {fs : Fields} :
    limitInFields d room fs = none ↔ ∀ e ∈ fs, limitWithin d room e.2 = none := by
  induction fs with
  | nil => simp [limitInFields]
  | cons e rest ih => rw [limitInFields, Option.or_eq_none_iff, ih, List.forall_mem_cons]

theorem limitWithin_list {xs : List Value} :
    limitWithin d (room + 1) (.list xs) = none ↔ ∀ x ∈ xs, limitWithin d room x = none := by
  rw [← limitInList_eq_none_iff]
  rfl

theorem limitWithin_object {fs : Fields} :
    limitWithin d (room + 1) (.object fs) = none ↔ ∀ e ∈ fs, limitWithin d room e.2 = none := by
  rw [← limitInFields_eq_none_iff]
  rfl

mutual

theorem limitWithin_onWire {v : Value} {room : Nat} (h : limitWithin d room v = none) :
    limitWithin d room v.onWire = none := by
  cases v with
  | float x =>
    rw [onWire]
    split <;> rfl
  | list xs =>
    cases room with
    | zero => cases h
    | succ room => exact limitInList_onWire h
  | object fs =>
    cases room with
    | zero => cases h
    | succ room => exact limitInFields_onWire h
  | null | bool | int | text | moment => exact h

theorem limitInList_onWire {xs : List Value} {room : Nat} (h : limitInList d room xs = none) :
    limitInList d room (onWireList xs) = none := by
  cases xs with
  | nil => rfl
  | cons x xs =>
    obtain ⟨hx, hxs⟩ := Option.or_eq_none_iff.mp h
    exact Option.or_eq_none_iff.mpr ⟨limitWithin_onWire hx, limitInList_onWire hxs⟩

theorem limitInFields_onWire {fs : List (String × Value)} {room : Nat}
    (h : limitInFields d room fs = none) : limitInFields d room (onWireFields fs) = none := by
  cases fs with
  | nil => rfl
  | cons e rest =>
    obtain ⟨hv, hrest⟩ := Option.or_eq_none_iff.mp h
    exact Option.or_eq_none_iff.mpr ⟨limitWithin_onWire hv, limitInFields_onWire hrest⟩

end

mutual

/-- A copy spells nothing, so only its depth is limited. -/
theorem limitWithin_copying {v : Value} {room : Nat} {l : Limit}
    (h : limitWithin .copying room v = some l) : l = .depth .copying := by
  cases v with
  | list xs =>
    cases room with
    | zero => exact (Option.some.inj h).symm
    | succ room => exact limitInList_copying h
  | object fs =>
    cases room with
    | zero => exact (Option.some.inj h).symm
    | succ room => exact limitInFields_copying h
  | null | bool | int | float | text | moment => cases h

theorem limitInList_copying {xs : List Value} {room : Nat} {l : Limit}
    (h : limitInList .copying room xs = some l) : l = .depth .copying := by
  cases xs with
  | nil => cases h
  | cons x xs =>
    obtain h | ⟨-, h⟩ := Option.or_eq_some_iff.mp h
    · exact limitWithin_copying h
    · exact limitInList_copying h

theorem limitInFields_copying {fs : List (String × Value)} {room : Nat} {l : Limit}
    (h : limitInFields .copying room fs = some l) : l = .depth .copying := by
  cases fs with
  | nil => cases h
  | cons e rest =>
    obtain h | ⟨-, h⟩ := Option.or_eq_some_iff.mp h
    · exact limitWithin_copying h
    · exact limitInFields_copying h

end

/-- Lists inside each other. -/
def burrow : Nat → Value
  | 0 => .list []
  | n + 1 => .list [burrow n]

end AgentGateway.Value
