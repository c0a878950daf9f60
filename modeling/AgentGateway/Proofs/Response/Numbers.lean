import AgentGateway.Json.Writer
import AgentGateway.Response

/-! Numbers beyond the finite ones in a response.

Values of unknown shape have null in the place of such numbers, and what a response counts is
whole. So a response holds such a number only where its temperature or its `top_p` is one
(`finite_write`). -/
namespace AgentGateway

namespace Json

theorem finiteList_eq_all (xs : List Value) : finiteList xs = xs.all finite := by
  induction xs with
  | nil => rfl
  | cons x xs ih => rw [finiteList, ih, List.all_cons]

theorem finiteFields_eq_all (fs : Fields) : finiteFields fs = fs.all fun e => finite e.2 := by
  induction fs with
  | nil => rfl
  | cons e rest ih => rw [finiteFields, ih, List.all_cons]

mutual

/-- What goes out of a value of unknown shape is finite. -/
theorem finite_onWire (v : Value) : finite v.onWire = true := by
  cases v with
  | float d =>
    rw [Value.onWire]
    split
    · rwa [finite]
    · rfl
  | list xs =>
    rw [Value.onWire, finite]
    exact finite_onWireList xs
  | object fs =>
    rw [Value.onWire, finite]
    exact finite_onWireFields fs
  | null | bool | int | text | moment => rfl

theorem finite_onWireList (xs : List Value) : finiteList (Value.onWireList xs) = true := by
  cases xs with
  | nil => rfl
  | cons x xs =>
    rw [Value.onWireList, finiteList, finite_onWire x, finite_onWireList xs, Bool.and_self]

theorem finite_onWireFields (fs : List (String × Value)) :
    finiteFields (Value.onWireFields fs) = true := by
  cases fs with
  | nil => rfl
  | cons e rest =>
    rw [Value.onWireFields, finiteFields, finite_onWire e.2, finite_onWireFields rest,
      Bool.and_self]

end

theorem finiteFields_put {fs : Fields} {v : Value} (key : String) (h : finiteFields fs = true)
    (hv : finite v = true) : finiteFields (fs.put key v) = true := by
  induction fs with
  | nil => simp [Keyed.put, finiteFields, hv]
  | cons e rest ih =>
    obtain ⟨k, w⟩ := e
    simp only [finiteFields, Bool.and_eq_true] at h
    by_cases hk : k = key
    · simp [Keyed.put, hk, finiteFields, hv, h.2]
    · simp [Keyed.put, hk, finiteFields, h.1, ih h.2]

theorem finiteFields_merge {fs more : Fields} (h : finiteFields fs = true)
    (hmore : finiteFields more = true) : finiteFields (fs.merge more) = true := by
  induction more generalizing fs with
  | nil => exact h
  | cons e rest ih =>
    simp only [finiteFields, Bool.and_eq_true] at hmore
    exact ih (finiteFields_put e.1 h hmore.1) hmore.2

/-- Keys that are made texts change no value. -/
theorem finite_underTexts {fs : Fields} (h : finiteFields fs = true) :
    finite (.underTexts fs) = true := by
  refine finiteFields_merge rfl ?_
  rw [finiteFields_eq_all] at h ⊢
  rwa [List.all_map]

theorem finite_ofOption {α : Type} {write : α → Value} (h : ∀ a, finite (write a) = true)
    (o : Option α) : finite (.ofOption write o) = true := by
  cases o with
  | none => rfl
  | some a => exact h a

theorem finite_ofText? (s : Option String) : finite (.ofText? s) = true :=
  finite_ofOption (fun _ => rfl) s

theorem finite_ofInt? (n : Option Int) : finite (.ofInt? n) = true :=
  finite_ofOption (fun _ => rfl) n

theorem finiteList_map {α : Type} {write : α → Value} (h : ∀ a, finite (write a) = true)
    (as : List α) : finiteList (as.map write) = true := by
  rw [finiteList_eq_all, List.all_map, List.all_eq_true]
  exact fun a _ => h a

/-- An object has its known fields, and others as they go out. -/
theorem finite_extended (f extra : Fields) :
    finite (.object (f ++ Value.onWireFields extra)) = finiteFields f := by
  have hextra := finite_onWireFields extra
  rw [finiteFields_eq_all] at hextra
  rw [finite, finiteFields_eq_all, finiteFields_eq_all, List.all_append, hextra, Bool.and_true]

end Json

open Json

theorem AgentReference.finite_write (a : AgentReference) : finite a.write = true := by
  rw [write, finite_extended]
  simp [finiteFields, finite, finite_ofText?]

theorem ConversationReference.finite_writeMetadata (m : Keyed String) :
    finite (writeMetadata m) = true := by
  refine finite_underTexts ?_
  rw [finiteFields_eq_all, List.all_map, List.all_eq_true]
  exact fun _ _ => rfl

theorem ConversationReference.finite_write (c : ConversationReference) : finite c.write = true := by
  rw [write, finite_extended]
  simp [finiteFields, finite, finite_ofOption finite_writeMetadata]

theorem Reasoning.finite_write (r : Reasoning) : finite r.write = true := by
  rw [write, finite_extended]
  simp [finiteFields, finite_ofText?]

theorem TextFormat.finite_write (f : TextFormat) : finite f.write = true := by
  have hstrict : finite (.ofOption .bool f.strict) = true := finite_ofOption (fun _ => rfl) _
  have hschema (fs : Fields) : finite (.underTexts (Value.onWireFields fs)) = true :=
    finite_underTexts (finite_onWireFields fs)
  rw [write, finite_extended]
  simp [finiteFields, finite, finite_ofText?, hstrict, finite_ofOption hschema]

theorem TextSettings.finite_write (t : TextSettings) : finite t.write = true := by
  rw [write, ← List.singleton_append, finite_extended]
  simp [finiteFields, finite_ofOption TextFormat.finite_write]

theorem UsageReport.finite_write (u : UsageReport) : finite u.write = true := by
  have hdetail (name : String) (d : CountDetail) : finite (writeDetail name d) = true := by
    rw [writeDetail, ← List.singleton_append, finite_extended]
    rfl
  rw [write, finite_extended]
  simp [finiteFields, finite, hdetail]

theorem Part.finite_write (p : Part) : finite p.write = true := by
  rw [write, ← List.cons_append, finite_extended]
  cases p.body <;> simp [writeBody, finiteFields, finite, finite_onWireList, finite_ofText?]

theorem Item.finite_write (i : Item) : finite i.write = true := by
  have hstatus (status : Option ItemStatus) :
      finite (.ofOption (fun s => .text s.name) status) = true := finite_ofOption (fun _ => rfl) _
  rw [write, finite_extended]
  cases i.body <;>
    simp [writeBody, finiteFields, finite, finiteList_map Part.finite_write, finite_ofText?,
      hstatus]

namespace Response

/-- **A response holds no number beyond the finite ones but its temperature and its `top_p`.** -/
theorem finite_write (r : Response) :
    finite r.write = (r.temperature.isFinite && r.topP.isFinite) := by
  have herror (e : ResponseError) : finite (writeError e) = true := by
    rw [writeError, finite_extended]
    rfl
  have hincomplete (d : IncompleteDetails) : finite (writeIncomplete d) = true := by
    rw [writeIncomplete, ← List.singleton_append, finite_extended]
    simp [finiteFields, finite_ofText?]
  have htool (tool : Fields) : finite (.underTexts (Value.onWireFields tool)) = true :=
    finite_underTexts (finite_onWireFields tool)
  rw [write, writeFields, finite_extended]
  simp [finiteFields, finite, finite_ofText?, finite_ofInt?, finite_onWire,
    ConversationReference.finite_writeMetadata, UsageReport.finite_write,
    finiteList_map Item.finite_write, finiteList_map htool,
    finite_ofOption AgentReference.finite_write, finite_ofOption ConversationReference.finite_write,
    finite_ofOption Reasoning.finite_write, finite_ofOption TextSettings.finite_write,
    finite_ofOption herror, finite_ofOption hincomplete]

end Response
end AgentGateway
