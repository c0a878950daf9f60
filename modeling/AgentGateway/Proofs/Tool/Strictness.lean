import AgentGateway.Proofs.Value.Limit
import AgentGateway.Tool

/-! Strictness as a closure.

Parameters are strict where they are *closed*: first whatever else they say, then what they
require, if anything, and last that nothing may be added (`strictParameters_eq`). What closed
parameters require depends on no more than the properties and what was required before
(`required?_closed`), from which it follows that closing twice is closing once, for parameters
(`strictParameters_strictParameters`) as for tools (`process_process`).

A response echoes the tools of its request, made strict and as they go out. Echoed again they
stay what they are, with one exception: what is required may be a number beyond the finite
ones, which goes out as null, and null is not required again (`echoed_echoed_iff`).

A tool that can be copied can be copied again once it is strict, and once it has been echoed
(`limit?_strict`, `limit?_echoed`): strictness adds a list of names and nothing deeper. -/
namespace AgentGateway

namespace Tool
open Keyed

/-! ### Parameters -/

/-- The names that properties declare, if these are an object. -/
def declared? : Option Value → Option Value
  | some (.object properties) => some (.list ((keys properties).map .text))
  | _ => none

theorem declared?_eq_none {v : Option Value}
    (h : ∀ properties, v ≠ some (.object properties)) : declared? v = none := by
  unfold declared?
  split
  · rename_i properties
    exact absurd rfl (h properties)
  · rfl

/-- The properties are required if they are declared, and otherwise what is required already,
unless that is null. -/
theorem required?_eq (p : Fields) : required? p =
    (declared? (get? p "properties")).or ((get? p "required").bind Value.present?) := by
  rw [required?]
  split
  · rename_i properties h
    simp [h, declared?, keys]
  · rename_i hother
    rw [declared?_eq_none hother, Option.none_or]

/-- What is required is never null. -/
theorem required?_present (p : Fields) : (required? p).bind Value.present? = required? p := by
  have hdeclared (v : Option Value) : (declared? v).bind Value.present? = declared? v := by
    unfold declared?
    split <;> rfl
  have hgiven (v : Option Value) :
      (v.bind Value.present?).bind Value.present? = v.bind Value.present? := by
    cases v with
    | none => rfl
    | some v => cases v <;> rfl
  rw [required?_eq]
  cases h : declared? (get? p "properties") with
  | none => exact hgiven _
  | some v =>
    rw [Option.some_or, ← h]
    exact hdeclared _

/-- Parameters with what they require and no room for more. -/
def closed (rest : Fields) (required : Option Value) : Fields :=
  rest ++ required.toList.map (fun v => ("required", v)) ++ [("additionalProperties", .bool false)]

/-- The keys that are set by closing. -/
def closing : List String := ["required", "additionalProperties"]

theorem strictParameters_eq (p : Fields) :
    strictParameters p = closed (p.without closing) (required? p) := rfl

section
variable {rest : Fields} (hrest : ∀ key ∈ closing, key ∉ keys rest) (required : Option Value)
include hrest

theorem without_closed : (closed rest required).without closing = rest := by
  have hset : without (required.toList.map fun v => ("required", v)) closing = [] := by
    cases required <;> simp [without, closing]
  rw [closed, without_append, without_append, hset, without_eq_self hrest]
  simp [without, closing]

theorem get?_closed_required : get? (closed rest required) "required" = required := by
  rw [closed, get?_append, get?_append, get?_eq_none (hrest _ (by decide))]
  cases required <;> simp [get?]

theorem get?_closed_additional :
    get? (closed rest required) "additionalProperties" = some (.bool false) := by
  rw [closed, get?_append, get?_append, get?_eq_none (hrest _ (by decide))]
  cases required <;> simp [get?]

omit hrest in
theorem get?_closed {key : String} (h : key ∉ closing) :
    get? (closed rest required) key = get? rest key := by
  have hne : "required" ≠ key ∧ "additionalProperties" ≠ key := by
    constructor <;> rintro rfl <;> exact h (by decide)
  rw [closed, get?_append, get?_append]
  cases required <;> simp [get?, hne.1, hne.2]

theorem required?_closed : required? (closed rest required) =
    (declared? (get? rest "properties")).or (required.bind Value.present?) := by
  rw [required?_eq, get?_closed required (by decide), get?_closed_required hrest]

/-- Closed parameters say what they require. -/
theorem closed_inj {required' : Option Value} :
    closed rest required = closed rest required' ↔ required = required' := by
  refine ⟨fun h => ?_, fun h => h ▸ rfl⟩
  rw [← get?_closed_required hrest required, h, get?_closed_required hrest]

end

theorem not_mem_closing (p : Fields) : ∀ key ∈ closing, key ∉ keys (p.without closing) :=
  fun _ h => not_mem_keys_without p h

/-- Closing once is enough. -/
theorem strictParameters_strictParameters (p : Fields) :
    strictParameters (strictParameters p) = strictParameters p := by
  have hrest := not_mem_closing p
  rw [strictParameters_eq (strictParameters p), strictParameters_eq p, without_closed hrest,
    required?_closed hrest, get?_without p (by decide), closed_inj hrest, required?_present,
    required?_eq,
    ← Option.or_assoc, Option.or_self]

/-! ### Parameters on the wire -/

/-- On the wire the same names are declared. -/
theorem declared?_onWire (v : Option Value) : declared? (v.map Value.onWire) = declared? v := by
  cases v with
  | none => rfl
  | some v =>
    cases v with
    | object properties => simp [declared?, Value.onWire]
    | float d => cases h : d.isFinite <;> simp [declared?, Value.onWire, h]
    | _ => rfl

theorem declared?_sent {v : Option Value} {names : Value} (h : declared? v = some names) :
    names.onWire.present? = some names := by
  unfold declared? at h
  split at h
  · obtain rfl := Option.some.inj h
    simp [Value.onWire, Value.onWireList_eq_map, Value.present?]
  · cases h

section
variable (p : Fields)

/-- Strict parameters as they go out. -/
theorem onWireFields_strictParameters : Value.onWireFields (strictParameters p) =
    closed (Value.onWireFields (p.without closing)) ((required? p).map Value.onWire) := by
  rw [strictParameters_eq]
  cases required? p <;> simp [closed, Value.onWireFields_eq_map, Value.onWire]

theorem not_mem_closing_sent :
    ∀ key ∈ closing, key ∉ keys (Value.onWireFields (p.without closing)) := by
  rw [Value.keys_onWireFields]
  exact not_mem_closing p

theorem required?_sent : required? (Value.onWireFields (strictParameters p)) =
    ((required? p).map Value.onWire).bind Value.present? := by
  rw [onWireFields_strictParameters, required?_closed (not_mem_closing_sent p),
    Value.get?_onWireFields, get?_without p (by decide), declared?_onWire]
  cases hnames : declared? (get? p "properties") with
  | none => rfl
  | some names =>
    have hp : required? p = some names := by rw [required?_eq, hnames, Option.some_or]
    rw [hp, Option.some_or]
    exact (declared?_sent hnames).symm

/-- Strict parameters are strict after they went out, unless what they require has become
null. -/
theorem strictParameters_sent (h : ∀ d, required? p = some (.float d) → d.isFinite = true) :
    strictParameters (Value.onWireFields (strictParameters p)) =
      Value.onWireFields (strictParameters p) := by
  have hkept : ((required? p).map Value.onWire).bind Value.present? =
      (required? p).map Value.onWire := by
    cases hp : required? p with
    | none => rfl
    | some v =>
      have hv : v ≠ .null := by
        rintro rfl
        have hpresent := required?_present p
        rw [hp] at hpresent
        cases hpresent
      refine Value.present?_eq_some.mpr ⟨rfl, fun hnull => ?_⟩
      obtain rfl | ⟨d, rfl, hinfinite⟩ := Value.onWire_eq_null.mp hnull
      · exact hv rfl
      · rw [h d hp] at hinfinite
        cases hinfinite
  rw [strictParameters_eq (Value.onWireFields _), required?_sent, hkept,
    onWireFields_strictParameters, without_closed (not_mem_closing_sent p)]

/-- If they go out the same again, it has not. -/
theorem finite_of_sent
    (h : Value.onWireFields (strictParameters (Value.onWireFields (strictParameters p))) =
      Value.onWireFields (strictParameters p)) :
    ∀ d, required? p = some (.float d) → d.isFinite = true := by
  intro d hd
  by_contra hinfinite
  have hnull : (Value.float d).onWire = .null :=
    Value.onWire_eq_null.mpr (.inr ⟨d, rfl, by simpa using hinfinite⟩)
  have hsame := congrArg (get? · "required") h
  simp only [onWireFields_strictParameters, get?_closed_required (not_mem_closing_sent _)] at hsame
  rw [← onWireFields_strictParameters, required?_sent, hd, Option.map_some, hnull] at hsame
  cases hsame

end

/-! ### Tools -/

theorem isFunction_iff {tool : Fields} :
    isFunction tool = true ↔ get? tool "type" = some (.text "function") := beq_iff_eq

theorem strictField_cases (e : String × Value) :
    (∃ p, e = ("parameters", .object p) ∧ strictField e = ("parameters", .object (strictParameters p))) ∨
      strictField e = e := by
  unfold strictField
  split
  · rename_i p
    exact .inl ⟨p, rfl, rfl⟩
  · exact .inr rfl

@[simp] theorem strictField_fst (e : String × Value) : (strictField e).1 = e.1 := by
  obtain ⟨p, rfl, h⟩ | h := strictField_cases e <;> rw [h]

theorem strictField_of_ne {e : String × Value} (h : e.1 ≠ "parameters") : strictField e = e := by
  obtain ⟨p, rfl, -⟩ | hsame := strictField_cases e
  · exact absurd rfl h
  · exact hsame

theorem strictField_strictField (e : String × Value) :
    strictField (strictField e) = strictField e := by
  obtain ⟨p, rfl, -⟩ | h := strictField_cases e
  · exact congrArg (fun q => ("parameters", Value.object q)) (strictParameters_strictParameters p)
  · rw [h, h]

/-- The fields of a function tool but for its strictness. -/
def own (tool : Fields) : Fields := (tool.without ["strict"]).map strictField

theorem strict_of_function {tool : Fields} (h : isFunction tool = true) :
    strict tool = own tool ++ [("strict", .bool true)] := if_pos h

theorem strict_of_other {tool : Fields} (h : isFunction tool = false) : strict tool = tool :=
  if_neg (by simp [h])

theorem keys_own (tool : Fields) : keys (own tool) = keys (tool.without ["strict"]) := by
  simp [own, keys, Function.comp_def]

theorem not_mem_own (tool : Fields) : "strict" ∉ keys (own tool) := by
  rw [keys_own]
  exact not_mem_keys_without tool (by decide)

/-- Only parameters change, in their place. -/
theorem own_without (tool : Fields) :
    (own tool).without ["strict", "parameters"] = tool.without ["strict", "parameters"] := by
  induction tool with
  | nil => rfl
  | cons e rest ih =>
    by_cases hstrict : e.1 = "strict"
    · simpa [own, without_cons, hstrict] using ih
    · by_cases hparameters : e.1 = "parameters"
      · simpa [own, without_cons, hstrict, hparameters] using ih
      · simpa [own, without_cons, hstrict, hparameters, strictField_of_ne hparameters] using ih

theorem get?_map_strictField (fs : Fields) (key : String) :
    get? (fs.map strictField) key = (get? fs key).map fun v => (strictField (key, v)).2 := by
  induction fs with
  | nil => rfl
  | cons e rest ih =>
    obtain ⟨k, v⟩ := e
    have hcons : List.map strictField ((k, v) :: rest) =
        (k, (strictField (k, v)).2) :: rest.map strictField := by
      rw [List.map_cons]
      exact congrArg (· :: _) (Prod.ext (strictField_fst _) rfl)
    rw [hcons]
    by_cases h : k = key
    · subst h
      simp [get?]
    · simp [get?, h, ih]

theorem get?_own (tool : Fields) {key : String} (h : key ≠ "strict") :
    get? (own tool) key = (get? tool key).map fun v => (strictField (key, v)).2 := by
  rw [own, get?_map_strictField, get?_without tool (by simpa using h)]

theorem get?_strict {tool : Fields} (hf : isFunction tool = true) {key : String}
    (h : key ≠ "strict") :
    get? (strict tool) key = (get? tool key).map fun v => (strictField (key, v)).2 := by
  rw [strict_of_function hf, get?_append, get?_own tool h]
  simp [get?, Ne.symm h]

theorem isFunction_strict {tool : Fields} (h : isFunction tool = true) :
    isFunction (strict tool) = true := by
  rw [isFunction_iff] at h ⊢
  rw [get?_strict (isFunction_iff.mpr h) (by decide), h]
  rfl

/-- The fields of a strict tool are its own and its strictness. -/
theorem own_append {fs : Fields} (h : "strict" ∉ keys fs) (v : Value) :
    own (fs ++ [("strict", v)]) = fs.map strictField := by
  have hfs : fs.without ["strict"] = fs := without_eq_self (by simpa using h)
  rw [own, without_append, hfs]
  simp [without]

theorem strict_strict (tool : Fields) : strict (strict tool) = strict tool := by
  cases h : isFunction tool with
  | false => rw [strict_of_other h, strict_of_other h]
  | true =>
    have hown : (own tool).map strictField = own tool := by
      rw [own, List.map_map]
      exact List.map_congr_left fun e _ => strictField_strictField e
    rw [strict_of_function (isFunction_strict h), strict_of_function h,
      own_append (not_mem_own tool), hown]

theorem process_process (v : Value) : process (process v) = process v := by
  cases v with
  | object tool => exact congrArg Value.object (strict_strict tool)
  | _ => rfl

/-! ### What strictness makes of a tool -/

/-- Parameters that are made strict, and the ones they are made of. -/
structure Closes (p q : Fields) : Prop where
  shut : get? q "additionalProperties" = some (.bool false)
  /-- All properties are required, in their order and each once. -/
  declared : ∀ properties, get? p "properties" = some (.object properties) →
    get? q "required" = some (.list ((keys properties).map .text)) ∧ (keys properties).Nodup
  given : (∀ properties, get? p "properties" ≠ some (.object properties)) →
    get? q "required" = (get? p "required").filter (· ≠ .null)
  kept : q.without closing = p.without closing

/-- A function tool that is made strict, and the tool it is made of. -/
structure Strengthens (tool made : Fields) : Prop where
  strict : get? made "strict" = some (.bool true)
  order : keys made = keys (tool.without ["strict"]) ++ ["strict"]
  kept : made.without ["strict", "parameters"] = tool.without ["strict", "parameters"]
  plain : (∀ p, get? tool "parameters" ≠ some (.object p)) →
    get? made "parameters" = get? tool "parameters"
  parameters : ∀ p, get? tool "parameters" = some (.object p) →
    ∃ q, get? made "parameters" = some (.object q) ∧ Closes p q
  wellKeyed : Value.wellKeyed (.object made) = true

/-- What is required is a list of names, or was required already. -/
theorem required?_cases {p : Fields} {v : Value} (hv : required? p = some v) :
    (∃ names : List String, v = .list (names.map .text)) ∨ get? p "required" = some v := by
  rw [required?_eq, Option.or_eq_some_iff] at hv
  obtain hv | ⟨-, hv⟩ := hv
  · unfold declared? at hv
    split at hv
    · exact .inl ⟨_, (Option.some.inj hv).symm⟩
    · cases hv
  · obtain ⟨u, hu, hpresent⟩ := Option.bind_eq_some_iff.mp hv
    obtain ⟨rfl, -⟩ := Value.present?_eq_some.mp hpresent
    exact .inr hu

theorem wellKeyed_required? {p : Fields} (h : Value.wellKeyed (.object p) = true) {v : Value}
    (hv : required? p = some v) : v.wellKeyed = true := by
  obtain ⟨names, rfl⟩ | hgiven := required?_cases hv
  · exact Value.wellKeyed_list.mpr (List.forall_mem_map.mpr fun _ _ => rfl)
  · exact Value.wellKeyed_of_get? h hgiven

theorem wellKeyed_strictParameters {p : Fields} (h : Value.wellKeyed (.object p) = true) :
    Value.wellKeyed (.object (strictParameters p)) = true := by
  have hrest := Value.wellKeyed_without h closing
  have hnew := not_mem_closing p
  rw [strictParameters_eq, closed]
  cases hp : required? p with
  | none =>
    rw [Option.toList_none, List.map_nil, List.append_nil]
    exact Value.wellKeyed_append hrest (by decide) (hnew _ (by decide)) rfl
  | some v =>
    have hrequired := Value.wellKeyed_append hrest (by decide) (hnew "required" (by decide))
      (wellKeyed_required? h hp)
    refine Value.wellKeyed_append hrequired (by decide) ?_ rfl
    rw [keys_append, List.mem_append, not_or]
    exact ⟨hnew _ (by decide), by simp [keys]⟩

theorem wellKeyed_own {tool : Fields} (h : Value.wellKeyed (.object tool) = true) :
    Value.wellKeyed (.object (own tool)) = true := by
  obtain ⟨hnodup, hentries⟩ := Value.wellKeyed_object.mp (Value.wellKeyed_without h ["strict"])
  refine Value.wellKeyed_object.mpr ⟨keys_own tool ▸ hnodup, fun e he => ?_⟩
  obtain ⟨e, hmem, rfl⟩ := List.mem_map.mp he
  obtain ⟨hkey, hvalue⟩ := hentries e hmem
  obtain ⟨p, rfl, hsame⟩ | hsame := strictField_cases e
  · rw [hsame]
    exact ⟨hkey, wellKeyed_strictParameters hvalue⟩
  · rw [hsame]
    exact ⟨hkey, hvalue⟩

theorem wellKeyed_strict {tool : Fields} (h : Value.wellKeyed (.object tool) = true) :
    Value.wellKeyed (.object (strict tool)) = true := by
  cases hf : isFunction tool with
  | false => rwa [strict_of_other hf]
  | true =>
    rw [strict_of_function hf]
    exact Value.wellKeyed_append (wellKeyed_own h) (by decide) (not_mem_own tool) rfl

theorem strictParameters_closes {p : Fields} (h : Value.wellKeyed (.object p) = true) :
    Closes p (strictParameters p) where
  shut := get?_closed_additional (not_mem_closing p) _
  declared := by
    intro properties hproperties
    refine ⟨?_, (Value.wellKeyed_object.mp (Value.wellKeyed_of_get? h hproperties)).1⟩
    rw [strictParameters_eq, get?_closed_required (not_mem_closing p), required?_eq, hproperties]
    rfl
  given := by
    intro hother
    rw [strictParameters_eq, get?_closed_required (not_mem_closing p), required?_eq,
      declared?_eq_none hother, Option.none_or]
    cases get? p "required" with
    | none => rfl
    | some v => cases v <;> rfl
  kept := without_closed (not_mem_closing p) _

theorem strict_strengthens {tool : Fields} (h : Value.wellKeyed (.object tool) = true)
    (hf : isFunction tool = true) : Strengthens tool (strict tool) where
  strict := by
    rw [strict_of_function hf, get?_append, get?_eq_none (not_mem_own tool)]
    rfl
  order := by
    rw [strict_of_function hf, keys_append, keys_own]
    rfl
  kept := by
    rw [strict_of_function hf, without_append, own_without]
    exact List.append_nil _
  plain := by
    intro hother
    rw [get?_strict hf (by decide)]
    cases hp : get? tool "parameters" with
    | none => rfl
    | some v =>
      cases v with
      | object p => exact absurd hp (hother p)
      | _ => rfl
  parameters := by
    intro p hp
    refine ⟨strictParameters p, ?_, strictParameters_closes (Value.wellKeyed_of_get? h hp)⟩
    rw [get?_strict hf (by decide), hp]
    rfl
  wellKeyed := wellKeyed_strict h

/-! ### Copying -/

theorem limit?_of_other {tool : Fields} (h : isFunction tool = false) : limit? tool = none :=
  if_neg (by simp [h])

theorem limit?_eq_none_iff {tool : Fields} (hf : isFunction tool = true) :
    limit? tool = none ↔ ∀ e ∈ tool.without ["strict"], e.2.limit? .copying = none := by
  rw [limit?, if_pos hf, List.findSome?_eq_none_iff]

/-- Only depth stands in the way of a strict tool. -/
theorem limit?_eq_some {tool : Fields} {l : Limit} (h : limit? tool = some l) :
    isFunction tool = true ∧ l = .depth .copying := by
  cases hf : isFunction tool with
  | false =>
    rw [limit?_of_other hf] at h
    cases h
  | true =>
    rw [limit?, if_pos hf] at h
    obtain ⟨e, -, he⟩ := List.exists_of_findSome?_eq_some h
    exact ⟨rfl, Value.limitWithin_copying he⟩

theorem limitWithin_strictParameters {p : Fields} {room : Nat}
    (h : Value.limitWithin .copying (room + 2) (.object p) = none) :
    Value.limitWithin .copying (room + 2) (.object (strictParameters p)) = none := by
  have hgiven := Value.limitWithin_object.mp h
  rw [Value.limitWithin_object, strictParameters_eq, closed]
  refine List.forall_mem_append.mpr ⟨List.forall_mem_append.mpr ⟨fun e he => ?_, fun e he => ?_⟩,
    List.forall_mem_singleton.mpr rfl⟩
  · exact hgiven e (List.mem_of_mem_filter he)
  · obtain ⟨v, hv, rfl⟩ := List.mem_map.mp he
    obtain ⟨names, rfl⟩ | hrequired := required?_cases (Option.mem_toList.mp hv)
    · exact Value.limitWithin_list.mpr (List.forall_mem_map.mpr fun _ _ => rfl)
    · exact hgiven _ (mem_of_get? hrequired)

/-- A strict tool can be copied where the tool that it is made of can. -/
theorem limit?_strict {tool : Fields} (h : limit? tool = none) : limit? (strict tool) = none := by
  cases hf : isFunction tool with
  | false => rwa [strict_of_other hf]
  | true =>
    have hgiven := (limit?_eq_none_iff hf).mp h
    rw [limit?_eq_none_iff (isFunction_strict hf), strict_of_function hf]
    intro e he
    obtain he | he := List.mem_append.mp (List.mem_of_mem_filter he)
    · obtain ⟨e, hmem, rfl⟩ := List.mem_map.mp he
      obtain ⟨p, rfl, hsame⟩ | hsame := strictField_cases e
      · rw [hsame]
        exact limitWithin_strictParameters (hgiven _ hmem)
      · rw [hsame]
        exact hgiven e hmem
    · rw [List.mem_singleton.mp he]
      rfl

/-- What is made of a tool is left as it is, if it is a tool that can be copied. -/
theorem echo_echo {v made : Value} (h : echo v = .ok made) : echo made = .ok made := by
  cases v with
  | object tool =>
    cases hl : limit? tool with
    | some l =>
      rw [echo, hl] at h
      cases h
    | none =>
      rw [echo, hl] at h
      obtain rfl := Except.ok.inj h
      show echo (.object (strict tool)) = .ok (.object (strict tool))
      rw [echo, limit?_strict hl]
      exact congrArg Except.ok (process_process (.object tool))
  | null | bool | int | float | text | moment | list =>
    obtain rfl := Except.ok.inj h
    rfl

theorem echo_of_limit {tool : Fields} {l : Limit} (h : limit? tool = some l) :
    echo (.object tool) = .error l := by
  rw [echo, h]

theorem echo_of_copied {tool : Fields} (h : limit? tool = none) :
    echo (.object tool) = .ok (.object (strict tool)) := by
  rw [echo, h]
  rfl

/-! ### Tools on the wire -/

/-- A tool as a response echoes it. -/
def echoed (tool : Fields) : Fields := Value.sentFields (strict tool)

/-- What is required of a strict tool is no number beyond the finite ones. -/
def RequiresFinite (tool : Fields) : Prop :=
  isFunction tool = true → ∀ p d, get? tool "parameters" = some (.object p) →
    required? p = some (.float d) → d.isFinite = true

section
variable {tool : Fields} (h : Value.wellKeyed (.object tool) = true)
include h

/-- A tool stays of its kind. -/
theorem isFunction_echoed : isFunction (echoed tool) = isFunction tool := by
  have hstrict : get? (strict tool) "type" = get? tool "type" := by
    cases hf : isFunction tool with
    | false => rw [strict_of_other hf]
    | true =>
      rw [get?_strict hf (by decide)]
      cases get? tool "type" with
      | none => rfl
      | some v => rfl
  rw [Bool.eq_iff_iff, isFunction_iff, isFunction_iff, echoed,
    Value.get?_sentFields (wellKeyed_strict h) (by decide), hstrict, Option.map_eq_some_iff]
  simp [Value.onWire_eq_text]

/-- A function tool's strictness is sent last. -/
theorem echoed_of_function (hf : isFunction tool = true) :
    echoed tool = Value.sentFields (own tool) ++ [("strict", .bool true)] ∧
      "strict" ∉ keys (Value.sentFields (own tool)) := by
  have hword : Text.IsWord "strict" := by decide
  have hnew : "strict" ∉ keys (Value.sentFields (own tool)) := by
    rw [Value.mem_keys_sentFields]
    rintro ⟨k, hk, hsame⟩
    obtain ⟨v, hv⟩ := mem_keys.mp hk
    obtain rfl := Text.eq_of_replacedText
      ((Value.wellKeyed_object.mp (wellKeyed_own h)).2 _ hv).1 hword hsame
    exact not_mem_own tool hk
  refine ⟨?_, hnew⟩
  rw [echoed, strict_of_function hf, Value.sentFields, Value.onWireFields_append, List.map_append,
    merge_append]
  simp only [Value.onWireFields, Value.onWire, List.map_cons, List.map_nil, hword.replacedText_eq]
  exact put_of_not_mem hnew _

/-- Parameters are sent as strictness makes them. -/
theorem get?_echoed_parameters (hf : isFunction tool = true) {q : Fields} :
    get? (echoed tool) "parameters" = some (.object q) ↔
      ∃ p, get? tool "parameters" = some (.object p) ∧
        Value.onWireFields (strictParameters p) = q := by
  have hstrict (v : Value) : (strictField ("parameters", v)).2.onWire = .object q ↔
      ∃ p, v = .object p ∧ Value.onWireFields (strictParameters p) = q := by
    rw [Value.onWire_eq_object]
    cases v <;> simp [strictField]
  rw [echoed, Value.get?_sentFields (wellKeyed_strict h) (by decide), get?_strict hf (by decide)]
  simp only [Option.map_map, Option.map_eq_some_iff, Function.comp_apply, hstrict]
  constructor
  · rintro ⟨_, hv, p, rfl, hq⟩
    exact ⟨p, hv, hq⟩
  · rintro ⟨p, hp, hq⟩
    exact ⟨_, hp, p, rfl, hq⟩

/-- An echoed tool is strict, if what it requires could go out. -/
theorem strict_echoed (hfinite : RequiresFinite tool) : strict (echoed tool) = echoed tool := by
  cases hf : isFunction tool with
  | false => exact strict_of_other ((isFunction_echoed h).trans hf)
  | true =>
    obtain ⟨hechoed, hnew⟩ := echoed_of_function h hf
    have hown : ∀ e ∈ Value.sentFields (own tool), strictField e = e := by
      intro e he
      obtain ⟨q, rfl, hstrict⟩ | hsame := strictField_cases e
      · have hmem : ("parameters", .object q) ∈ echoed tool := by
          rw [hechoed]
          exact List.mem_append_left _ he
        have hq : get? (echoed tool) "parameters" = some (.object q) :=
          (get?_eq_some_iff (Value.nodup_keys_sentFields _)).mpr hmem
        obtain ⟨p, hp, rfl⟩ := (get?_echoed_parameters h hf).mp hq
        rw [hstrict, strictParameters_sent p fun d => hfinite hf p d hp]
      · exact hsame
    rw [strict_of_function ((isFunction_echoed h).trans hf), hechoed, own_append hnew]
    exact congrArg (· ++ _) ((List.map_congr_left hown).trans (List.map_id _))

/-- An echoed tool can be copied where the tool that it is made of can. -/
theorem limit?_echoed (hl : limit? tool = none) : limit? (echoed tool) = none := by
  cases hf : isFunction tool with
  | false => exact limit?_of_other ((isFunction_echoed h).trans hf)
  | true =>
    have hstrict := (limit?_eq_none_iff (isFunction_strict hf)).mp (limit?_strict hl)
    rw [limit?_eq_none_iff ((isFunction_echoed h).trans hf)]
    intro e he
    obtain ⟨hsent, hkey⟩ := List.mem_filter.mp he
    obtain ⟨k, u, hmem, hsame, hvalue⟩ := Value.mem_sentFields hsent
    rw [← hvalue]
    refine Value.limitWithin_onWire (hstrict (k, u) (List.mem_filter.mpr ⟨hmem, ?_⟩))
    have hword : Text.IsWord "strict" := by decide
    have hne : k ≠ "strict" := by
      rintro rfl
      rw [hword.replacedText_eq] at hsame
      simp [← hsame] at hkey
    simpa using hne

theorem wellKeyed_echoed : Value.wellKeyed (.object (echoed tool)) = true :=
  Value.wellKeyed_sentFields (wellKeyed_strict h)

/-- **An echo is echoed as it is**, unless a number beyond the finite ones was required. -/
theorem echoed_echoed_iff : echoed (echoed tool) = echoed tool ↔ RequiresFinite tool := by
  refine ⟨fun hsame hf p d hp => ?_, fun hfinite => ?_⟩
  · have hsent := (get?_echoed_parameters h hf).mpr ⟨p, hp, rfl⟩
    have hagain := (get?_echoed_parameters (wellKeyed_echoed h)
      ((isFunction_echoed h).trans hf)).mpr ⟨_, hsent, rfl⟩
    rw [hsame, hsent] at hagain
    simp only [Option.some.injEq, Value.object.injEq] at hagain
    exact finite_of_sent p hagain.symm d
  · rw [echoed, strict_echoed h hfinite]
    exact Value.sentFields_sentFields _

end

end Tool
end AgentGateway
