import AgentGateway.Proofs.Keyed
import AgentGateway.Usage
import Mathlib.Algebra.BigOperators.Group.List.Basic
import Mathlib.Algebra.Ring.Int.Defs

/-! Adding token counts.

A usage is read measure by measure, and its additional counts are a table: each stands under
its name once (`WellKeyed`). Seen so, adding is one operation, `Usage.sum`, done for every
measure at once (`countOf_combine`), from which it follows that the order and the grouping of
usages do not matter.

What is reported of a sum is the sum of what is reported of its parts for every field but
one. `report_adds_up` says how much a reported total falls short: a part without a total of
its own counts by its input and output only as long as no other part has a total. -/
namespace AgentGateway

namespace Usage

/-! ### Sums of counts that may be absent -/

@[simp] theorem sum_none_left (a : Option Int) : sum none a = a := by
  cases a <;> simp [sum]

@[simp] theorem sum_none_right (a : Option Int) : sum a none = a := by
  cases a <;> simp [sum]

theorem sum_assoc (a b c : Option Int) : sum (sum a b) c = sum a (sum b c) := by
  cases a <;> cases b <;> cases c <;> simp [sum, Int.add_assoc]

theorem getD_sum (a b : Option Int) : (sum a b).getD 0 = a.getD 0 + b.getD 0 := by
  cases a <;> cases b <;> simp [sum]

theorem isSome_sum (a b : Option Int) : (sum a b).isSome = (a.isSome || b.isSome) := by
  cases a <;> cases b <;> rfl

theorem getD_foldl_sum (t : Option Int) (counts : List (Option Int)) :
    (counts.foldl sum t).getD 0 = t.getD 0 + (counts.map (·.getD 0)).sum := by
  induction counts generalizing t with
  | nil => simp
  | cons c rest ih =>
    rw [List.foldl_cons, ih, getD_sum, List.map_cons, List.sum_cons, Int.add_assoc]

theorem isSome_foldl_sum (t : Option Int) (counts : List (Option Int)) :
    (counts.foldl sum t).isSome = (t.isSome || counts.any Option.isSome) := by
  induction counts generalizing t with
  | nil => simp
  | cons c rest ih => rw [List.foldl_cons, ih, isSome_sum, List.any_cons, Bool.or_assoc]

/-! ### Measures -/

/-- What a usage counts. -/
inductive Measure where
  | input
  | output
  | total
  | additional (key : String)

def count (u : Usage) : Measure → Option Int
  | .input => u.input
  | .output => u.output
  | .total => u.total
  | .additional key => u.additional.get? key

/-- The count of a usage that may be absent. -/
def countOf (u : Option Usage) (m : Measure) : Option Int := u.bind fun v => v.count m

/-- Each additional count stands under its name once. -/
def WellKeyed (u : Usage) : Prop := (Keyed.keys u.additional).Nodup

/-- The same counts, in whatever order the additional ones stand. -/
def Same (a b : Option Usage) : Prop := a.isSome = b.isSome ∧ ∀ m, countOf a m = countOf b m

theorem get?_addCounts {more : Keyed Int} (h : (Keyed.keys more).Nodup) (counts : Keyed Int)
    (key : String) :
    (addCounts counts more).get? key = sum (counts.get? key) (Keyed.get? more key) := by
  induction more generalizing counts with
  | nil => exact (sum_none_right _).symm
  | cons e rest ih =>
    obtain ⟨k, n⟩ := e
    obtain ⟨hk, hrest⟩ := List.nodup_cons.mp h
    have hadd : addCounts counts ((k, n) :: rest) =
        addCounts (counts.put k ((counts.get? k).getD 0 + n)) rest := rfl
    rw [hadd, ih hrest, Keyed.get?_put]
    by_cases hkey : k = key
    · subst hkey
      rw [Keyed.get?_eq_none hk]
      cases hc : Keyed.get? counts k <;> simp [Keyed.get?, sum]
    · simp only [hkey, if_false, Keyed.get?]

theorem nodup_keys_addCounts {counts : Keyed Int} (h : (Keyed.keys counts).Nodup)
    (more : Keyed Int) : (Keyed.keys (addCounts counts more)).Nodup := by
  induction more generalizing counts with
  | nil => exact h
  | cons e rest ih => exact ih (Keyed.nodup_keys_put counts e.1 _ h)

theorem WellKeyed.add {a : Usage} (h : a.WellKeyed) (b : Usage) : (a.add b).WellKeyed :=
  nodup_keys_addCounts h b.additional

/-- Adding is adding measure by measure. -/
theorem count_add (a : Usage) {b : Usage} (hb : b.WellKeyed) (m : Measure) :
    (a.add b).count m = sum (a.count m) (b.count m) := by
  cases m with
  | input | output | total => rfl
  | additional key => exact get?_addCounts hb a.additional key

theorem WellKeyed.combine {a b : Option Usage} (ha : ∀ u ∈ a, u.WellKeyed)
    (hb : ∀ u ∈ b, u.WellKeyed) : ∀ u ∈ combine a b, u.WellKeyed := by
  cases a with
  | none => rwa [combine_none_left]
  | some a =>
    cases b with
    | none => exact ha
    | some b =>
      intro u hu
      cases hu
      exact (ha a rfl).add b

theorem isSome_combine (a b : Option Usage) : (combine a b).isSome = (a.isSome || b.isSome) := by
  cases a <;> cases b <;> rfl

theorem countOf_combine (a : Option Usage) {b : Option Usage} (hb : ∀ u ∈ b, u.WellKeyed)
    (m : Measure) : countOf (combine a b) m = sum (countOf a m) (countOf b m) := by
  cases a with
  | none => rw [combine_none_left]; exact (sum_none_left _).symm
  | some a =>
    cases b with
    | none => exact (sum_none_right _).symm
    | some b => exact count_add a (hb b rfl) m

/-! ### Order and grouping -/

theorem combine_assoc (a : Option Usage) {b c : Option Usage} (hb : ∀ u ∈ b, u.WellKeyed)
    (hc : ∀ u ∈ c, u.WellKeyed) : Same (combine (combine a b) c) (combine a (combine b c)) := by
  refine ⟨by simp only [isSome_combine, Bool.or_assoc], fun m => ?_⟩
  rw [countOf_combine _ hc, countOf_combine _ hb, countOf_combine _ (.combine hb hc),
    countOf_combine _ hc, sum_assoc]

theorem combine_comm {a b : Option Usage} (ha : ∀ u ∈ a, u.WellKeyed)
    (hb : ∀ u ∈ b, u.WellKeyed) : Same (combine a b) (combine b a) := by
  refine ⟨by simp only [isSome_combine, Bool.or_comm], fun m => ?_⟩
  rw [countOf_combine _ hb, countOf_combine _ ha, sum_comm]

/-- Usages added up one after the other, from nothing. -/
def fold (us : List (Option Usage)) : Option Usage := us.foldl combine none

theorem countOf_foldl {us : List (Option Usage)} (h : ∀ a ∈ us, ∀ u ∈ a, u.WellKeyed)
    (t : Option Usage) (m : Measure) :
    countOf (us.foldl combine t) m = (us.map (countOf · m)).foldl sum (countOf t m) := by
  induction us generalizing t with
  | nil => rfl
  | cons a rest ih =>
    obtain ⟨ha, hrest⟩ := List.forall_mem_cons.mp h
    rw [List.foldl_cons, ih hrest, countOf_combine t ha, List.map_cons, List.foldl_cons]

theorem isSome_foldl (us : List (Option Usage)) (t : Option Usage) :
    (us.foldl combine t).isSome = (t.isSome || us.any Option.isSome) := by
  induction us generalizing t with
  | nil => simp
  | cons a rest ih => rw [List.foldl_cons, ih, isSome_combine, List.any_cons, Bool.or_assoc]

/-- The order in which usages are added up does not matter. -/
theorem fold_perm {us vs : List (Option Usage)} (h : us.Perm vs)
    (hkeyed : ∀ a ∈ us, ∀ u ∈ a, u.WellKeyed) : Same (fold us) (fold vs) := by
  refine ⟨?_, fun m => ?_⟩
  · rw [fold, fold, isSome_foldl, isSome_foldl, h.any_eq]
  · rw [fold, fold, countOf_foldl hkeyed, countOf_foldl fun a ha => hkeyed a (h.mem_iff.mpr ha)]
    refine (h.map _).foldl_eq' (fun a _ b _ t => ?_) _
    rw [sum_assoc, sum_comm a b, sum_assoc]

end Usage

/-! ### Reports -/

namespace UsageReport
open Usage (countOf Same)

theorem input_ofUsage (u : Option Usage) : (ofUsage u).input = (countOf u .input).getD 0 := by
  cases u <;> rfl

theorem output_ofUsage (u : Option Usage) : (ofUsage u).output = (countOf u .output).getD 0 := by
  cases u <;> rfl

theorem cached_ofUsage (u : Option Usage) :
    (ofUsage u).cached = ⟨(countOf u (.additional cachedKey)).getD 0, []⟩ := by
  cases u <;> rfl

theorem reasoning_ofUsage (u : Option Usage) :
    (ofUsage u).reasoning = ⟨(countOf u (.additional reasoningKey)).getD 0, []⟩ := by
  cases u <;> rfl

theorem total_ofUsage (u : Option Usage) :
    (ofUsage u).total = (countOf u .total).getD ((ofUsage u).input + (ofUsage u).output) := by
  cases u <;> rfl

/-- A report shows the counts of a usage, not the order of its table. -/
theorem ofUsage_congr {a b : Option Usage} (h : Same a b) : ofUsage a = ofUsage b := by
  obtain ⟨hsome, hcounts⟩ := h
  cases a with
  | none =>
    cases b with
    | none => rfl
    | some b => cases hsome
  | some a =>
    cases b with
    | none => cases hsome
    | some b =>
      have hinput : a.input = b.input := hcounts .input
      have houtput : a.output = b.output := hcounts .output
      have htotal : a.total = b.total := hcounts .total
      have hadditional (key : String) : a.additional.get? key = b.additional.get? key :=
        hcounts (.additional key)
      simp only [ofUsage, hinput, houtput, htotal, hadditional]

/-- Whether a usage has a total of its own. -/
def totaled (u : Option Usage) : Bool := (countOf u .total).isSome

/-- What is reported as the total of a usage that has none of its own. -/
def derived (u : Option Usage) : Int :=
  if totaled u then 0 else (ofUsage u).input + (ofUsage u).output

theorem total_eq (u : Option Usage) :
    (ofUsage u).total = (countOf u .total).getD 0 + derived u := by
  rw [total_ofUsage, derived, totaled]
  cases countOf u .total <;> simp

/-- A field that is one count is reported of a sum as the sum over its parts. -/
theorem field_adds_up (field : UsageReport → Int) {m : Usage.Measure}
    (hfield : ∀ u, field (ofUsage u) = (countOf u m).getD 0) {us : List (Option Usage)}
    (h : ∀ a ∈ us, ∀ u ∈ a, u.WellKeyed) :
    field (ofUsage (Usage.fold us)) = ((us.map ofUsage).map field).sum := by
  have hparts : (us.map ofUsage).map field = (us.map (countOf · m)).map (·.getD 0) := by
    simp only [List.map_map, Function.comp_def, hfield]
  rw [hfield, Usage.fold, Usage.countOf_foldl h, Usage.getD_foldl_sum, hparts]
  exact Int.zero_add _

theorem sum_total (us : List (Option Usage)) :
    ((us.map ofUsage).map (·.total)).sum =
      ((us.map (countOf · .total)).map (·.getD 0)).sum + (us.map derived).sum := by
  induction us with
  | nil => rfl
  | cons u rest ih =>
    simp only [List.map_cons, List.sum_cons, ih, total_eq]
    omega

/-- Where no part has a total of its own, the total of the sum is derived from all of them. -/
theorem derived_fold {us : List (Option Usage)} (h : ∀ a ∈ us, ∀ u ∈ a, u.WellKeyed) :
    derived (Usage.fold us) = if us.any totaled then 0 else (us.map derived).sum := by
  have htotaled : totaled (Usage.fold us) = us.any totaled := by
    rw [totaled, Usage.fold, Usage.countOf_foldl h, Usage.isSome_foldl_sum, List.any_map]
    rfl
  rw [derived, htotaled]
  cases hany : us.any totaled with
  | true => rfl
  | false =>
    have hnone : ∀ u ∈ us, totaled u = false := by simpa using hany
    have hderived : us.map derived =
        us.map fun u => (ofUsage u).input + (ofUsage u).output := by
      refine List.map_congr_left fun u hu => ?_
      rw [derived, hnone u hu]
      rfl
    rw [hderived, List.sum_map_add]
    simp only [Bool.false_eq_true, if_false]
    rw [field_adds_up (·.input) input_ofUsage h, field_adds_up (·.output) output_ofUsage h,
      List.map_map, List.map_map]
    rfl

/-- **What is reported of a sum of usages.** Each count is reported as the sum over the parts. So
is the total if every part has one of its own or none has. Where only some have, the total falls
short of the sum over the parts by the input and output of those that have none. -/
theorem report_adds_up (us : List (Option Usage)) (h : ∀ a ∈ us, ∀ u ∈ a, u.WellKeyed) :
    let whole := ofUsage (Usage.fold us)
    let parts := us.map ofUsage
    whole.input = (parts.map (·.input)).sum ∧ whole.output = (parts.map (·.output)).sum ∧
      whole.cached.count = (parts.map (·.cached.count)).sum ∧
      whole.reasoning.count = (parts.map (·.reasoning.count)).sum ∧
      (parts.map (·.total)).sum =
        whole.total + if us.any totaled then (us.map derived).sum else 0 := by
  intro whole parts
  have hcached (u : Option Usage) : (ofUsage u).cached.count = _ :=
    congrArg CountDetail.count (cached_ofUsage u)
  have hreasoning (u : Option Usage) : (ofUsage u).reasoning.count = _ :=
    congrArg CountDetail.count (reasoning_ofUsage u)
  refine ⟨field_adds_up (·.input) input_ofUsage h, field_adds_up (·.output) output_ofUsage h,
    field_adds_up (·.cached.count) hcached h, field_adds_up (·.reasoning.count) hreasoning h, ?_⟩
  have hown : ((us.map (countOf · .total)).map (·.getD 0)).sum =
      (countOf (Usage.fold us) .total).getD 0 := by
    rw [Usage.fold, Usage.countOf_foldl h, Usage.getD_foldl_sum]
    exact (Int.zero_add _).symm
  rw [sum_total, hown, show whole.total = _ from total_eq _, derived_fold h]
  split <;> omega

/-- Five tokens in and two out, and then a part that knows its total of three only: the parts
report ten, the whole three. -/
theorem mixed_total :
    let us : List (Option Usage) :=
      [some ⟨some 5, some 2, none, []⟩, some ⟨none, none, some 3, [(cachedKey, 4)]⟩]
    (∀ a ∈ us, ∀ u ∈ a, u.WellKeyed) ∧ (ofUsage (Usage.fold us)).total = 3 ∧
      ((us.map ofUsage).map (·.total)).sum = 10 ∧ (ofUsage (Usage.fold us)).cached.count = 4 := by
  intro us
  have hkeyed : ∀ a ∈ us, ∀ u ∈ a, u.WellKeyed := by
    simp [us, Usage.WellKeyed, Keyed.keys]
  obtain ⟨-, -, hcached, -, htotal⟩ := report_adds_up us hkeyed
  have hwhole : (ofUsage (Usage.fold us)).total = 3 := rfl
  refine ⟨hkeyed, hwhole, ?_, hcached⟩
  rw [htotal, hwhole]
  rfl

end UsageReport
end AgentGateway
