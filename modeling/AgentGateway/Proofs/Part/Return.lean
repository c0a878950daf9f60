import AgentGateway.Part
import AgentGateway.Proofs.Schema.Return

/-! Content parts that are read from what was written of them.

A part of any kind is read again as it is, with one exception (`returns`): where an audio part was
wrapped twice, the inner wrapping is kept as a field that is not known, and the next reading
takes that one away as well. -/
namespace AgentGateway.Part
open Schema

/-- Whether no reading unwraps a part further: among the fields that an audio part keeps there is
no object that would wrap its fields. -/
def Unwrapped (p : Part) : Prop :=
  match p.body with
  | .inputAudio .. => ∀ inner, Keyed.get? p.extra "input_audio" ≠ some (.object inner)
  | _ => True

/-- The fields of a part as they are written. -/
def writeFields (p : Part) : Fields :=
  ("type", .text (tag p.body)) :: writeBody p.body ++ Value.onWireFields p.extra

theorem get?_writeFields {p : Part} {body : Body} (hp : body = p.body) {name : String} {v : Value}
    (hv : Keyed.get? (writeBody body) name = some v) (hname : "type" ≠ name) :
    Keyed.get? p.writeFields name = some v := by
  subst hp
  simp [writeFields, Keyed.get?, Keyed.get?_append, hv, hname]

/-! ### One kind -/

section
variable {kind : String} {known : List String} {fs : Fields} {p : Part}

theorem readKind_eq_ok_iff {body : Checked Body} : readKind kind fs known body = .ok p ↔
    Keeps ("type" :: known) fs p.extra ∧ optional fs "type" (literal kind) () = .ok () ∧
      body = .ok p.body := by
  obtain ⟨b, extra⟩ := p
  rw [readKind, keeping_eq_ok_iff]
  simp [keeps_iff, Checked.ap_eq_ok_iff, Checked.map_eq_ok_iff, Checked.exists_ok_unit, and_assoc,
    and_comm, and_left_comm]

/-- A part whose own fields are read again is read again. -/
theorem readKind_writeFields (hfs : Value.IsDocument (.object fs)) {body : Checked Body}
    (hread : readKind kind fs known body = .ok p) (htag : tag p.body = kind)
    (hknown : Keyed.keys (writeBody p.body) = known)
    (hwords : ∀ key ∈ "type" :: known, Text.IsWord key) {again : Checked Body} :
    readKind kind p.writeFields known again = .ok p ↔ again = .ok p.body := by
  have hkept := Kept.of_keeps hfs (readKind_eq_ok_iff.mp hread).1
  have hkeeps : Keeps ("type" :: known) p.writeFields p.extra :=
    hkept.keeps (congrArg _ hknown) hwords
  have hkind : optional p.writeFields "type" (literal kind) () = .ok () := by
    simp [writeFields, htag, Schema.optional, Keyed.get?, literal, oneOf, Checked.under]
  simp [readKind_eq_ok_iff, hkeeps, hkind]

/-! ### The kinds -/

variable (hfs : Value.IsDocument (.object fs))
include hfs

/-- A kind that has one text. -/
theorem readText_writeFields {name : String} {make : String → Body}
    (h : readKind kind fs [name] (make <$> optional fs name text "") = .ok p)
    (hmake : ∀ s, tag (make s) = kind ∧ writeBody (make s) = [(name, .text s)])
    (hwords : ∀ key ∈ ["type", name], Text.IsWord key) (hname : "type" ≠ name) :
    tag p.body = kind ∧
      readKind kind p.writeFields [name] (make <$> optional p.writeFields name text "") =
        .ok p := by
  obtain ⟨-, -, hbody⟩ := readKind_eq_ok_iff.mp h
  obtain ⟨s, hs, hp⟩ := Checked.map_eq_ok_iff.mp hbody
  obtain ⟨htag, hwritten⟩ := hmake s
  have htext : Keyed.get? p.writeFields name = some (.text s) :=
    get?_writeFields hp (by simp [hwritten, Keyed.get?]) hname
  rw [hp] at htag hwritten
  refine ⟨htag, ?_⟩
  rw [readKind_writeFields hfs h htag (by rw [hwritten]; rfl) hwords,
    Returns.text.optional_again hfs rfl hs htext]
  exact congrArg _ hp

/-- A kind that has data and may have one text more. -/
theorem readSound_writeFields {name : String} {make : String → Option String → Body}
    (h : readKind kind fs ["data", name]
      (make <$> required fs "data" text <*> maybe fs name text) = .ok p)
    (hmake : ∀ s t, tag (make s t) = kind ∧
      writeBody (make s t) = [("data", .text s), (name, .ofText? t)])
    (hwords : ∀ key ∈ ["type", "data", name], Text.IsWord key) (hname : "type" ≠ name)
    (hdata : "data" ≠ name) :
    tag p.body = kind ∧
      readKind kind p.writeFields ["data", name]
        (make <$> required p.writeFields "data" text <*> maybe p.writeFields name text) =
          .ok p := by
  obtain ⟨-, -, hbody⟩ := readKind_eq_ok_iff.mp h
  simp only [Checked.seq_eq, Checked.map_eq, Checked.ap_eq_ok_iff, Checked.map_eq_ok_iff] at hbody
  obtain ⟨_, t, ⟨s, hs, rfl⟩, ht, hp⟩ := hbody
  obtain ⟨htag, hwritten⟩ := hmake s t
  have hsound : Keyed.get? p.writeFields "data" = some (.text s) :=
    get?_writeFields hp (by simp [hwritten, Keyed.get?]) (by decide)
  have hother : Keyed.get? p.writeFields name = some (.ofText? t) :=
    get?_writeFields hp (by simp [hwritten, Keyed.get?, hdata]) hname
  rw [hp] at htag hwritten
  refine ⟨htag, ?_⟩
  rw [readKind_writeFields hfs h htag (by rw [hwritten]; rfl) hwords,
    Returns.text.required_again hfs hs hsound,
    Returns.text.maybe_again hfs (by simp) ht hother]
  exact congrArg _ hp

theorem readOutputText_writeFields (h : readOutputText fs = .ok p) :
    tag p.body = "output_text" ∧ readOutputText p.writeFields = .ok p := by
  obtain ⟨-, -, hbody⟩ := readKind_eq_ok_iff.mp h
  simp only [Checked.seq_eq, Checked.map_eq, Checked.ap_eq_ok_iff, Checked.map_eq_ok_iff] at hbody
  obtain ⟨_, logprobs, ⟨_, annotations, ⟨s, hs, rfl⟩, hannotations, rfl⟩, hlogprobs, hp⟩ := hbody
  refine ⟨by rw [← hp]; rfl, ?_⟩
  rw [readOutputText,
    readKind_writeFields hfs h (by rw [← hp]; rfl) (by rw [← hp]; rfl) (by decide),
    Returns.text.optional_again hfs rfl hs (get?_writeFields hp rfl (by decide)),
    Returns.values.optional_again hfs rfl hannotations (get?_writeFields hp rfl (by decide)),
    Returns.values.optional_again hfs rfl hlogprobs (get?_writeFields hp rfl (by decide))]
  exact congrArg _ hp

theorem readInputImage_writeFields (h : readInputImage fs = .ok p) :
    tag p.body = "input_image" ∧ readInputImage p.writeFields = .ok p := by
  obtain ⟨-, -, hbody⟩ := readKind_eq_ok_iff.mp h
  simp only [Checked.seq_eq, Checked.map_eq, Checked.ap_eq_ok_iff, Checked.map_eq_ok_iff] at hbody
  obtain ⟨_, detail, ⟨_, fileId, ⟨imageUrl, hurl, rfl⟩, hfile, rfl⟩, hdetail, hp⟩ := hbody
  refine ⟨by rw [← hp]; rfl, ?_⟩
  rw [readInputImage,
    readKind_writeFields hfs h (by rw [← hp]; rfl) (by rw [← hp]; rfl) (by decide),
    Returns.text.maybe_again hfs (by simp) hurl (get?_writeFields hp rfl (by decide)),
    Returns.text.maybe_again hfs (by simp) hfile (get?_writeFields hp rfl (by decide)),
    Returns.text.maybe_again hfs (by simp) hdetail (get?_writeFields hp rfl (by decide))]
  exact congrArg _ hp

theorem readInputFile_writeFields (h : readInputFile fs = .ok p) :
    tag p.body = "input_file" ∧ readInputFile p.writeFields = .ok p := by
  obtain ⟨-, -, hbody⟩ := readKind_eq_ok_iff.mp h
  simp only [Checked.seq_eq, Checked.map_eq, Checked.ap_eq_ok_iff, Checked.map_eq_ok_iff] at hbody
  obtain ⟨_, filename, ⟨_, fileUrl, ⟨_, fileData, ⟨fileId, hid, rfl⟩, hdata, rfl⟩, hurl, rfl⟩,
    hname, hp⟩ := hbody
  refine ⟨by rw [← hp]; rfl, ?_⟩
  rw [readInputFile,
    readKind_writeFields hfs h (by rw [← hp]; rfl) (by rw [← hp]; rfl) (by decide),
    Returns.text.maybe_again hfs (by simp) hid (get?_writeFields hp rfl (by decide)),
    Returns.text.maybe_again hfs (by simp) hdata (get?_writeFields hp rfl (by decide)),
    Returns.text.maybe_again hfs (by simp) hurl (get?_writeFields hp rfl (by decide)),
    Returns.text.maybe_again hfs (by simp) hname (get?_writeFields hp rfl (by decide))]
  exact congrArg _ hp

end

/-! ### Audio -/

theorem isDocument_unwrapAudio {fs : Fields} (hfs : Value.IsDocument (.object fs)) :
    Value.IsDocument (.object (unwrapAudio fs)) := by
  unfold unwrapAudio
  split
  · rename_i inner hinner
    exact (hfs.without ["input_audio"]).merge (hfs.of_get? hinner)
  · exact hfs

/-- Nothing that wraps is left of a part that is unwrapped again, unless it is one more object
inside of it. -/
theorem not_wrapped_of_merge (fs inner : Fields) :
    Keyed.get? ((fs.without ["input_audio"]).merge inner) "input_audio" ≠
      some (.object inner) := by
  intro hget
  rcases Keyed.mem_merge (Keyed.mem_of_get? hget) with hmem | hmem
  · exact Keyed.not_mem_keys_without fs (by simp) (Keyed.mem_keys.mpr ⟨_, hmem⟩)
  · have hsize := List.sizeOf_lt_of_mem hmem
    simp at hsize
    omega

/-- What wraps a written audio part is what it keeps. -/
theorem get?_writeFields_audio {p : Part} (htag : tag p.body = "input_audio")
    (hwire : Value.onWireFields p.extra = p.extra) :
    Keyed.get? p.writeFields "input_audio" = Keyed.get? p.extra "input_audio" := by
  obtain ⟨body, extra⟩ := p
  cases body with
  | inputAudio => simpa [writeFields, writeBody, Keyed.get?] using congrArg (Keyed.get? · _) hwire
  | _ => simp [tag] at htag

theorem unwrapped_iff {p : Part} (htag : tag p.body = "input_audio") :
    p.Unwrapped ↔ ∀ inner, Keyed.get? p.extra "input_audio" ≠ some (.object inner) := by
  obtain ⟨body, extra⟩ := p
  cases body with
  | inputAudio => exact Iff.rfl
  | _ => simp [tag] at htag

theorem unwrapped_of_tag {p : Part} (h : tag p.body ≠ "input_audio") : p.Unwrapped := by
  obtain ⟨body, extra⟩ := p
  cases body with
  | inputAudio => exact absurd rfl h
  | _ => trivial

theorem readInputAudio_writeFields {fs : Fields} {p : Part} (hfs : Value.IsDocument (.object fs))
    (h : readInputAudio fs = .ok p) :
    tag p.body = "input_audio" ∧ (readInputAudio p.writeFields = .ok p ↔ p.Unwrapped) := by
  have hdoc := isDocument_unwrapAudio hfs
  obtain ⟨htag, hagain⟩ := readSound_writeFields hdoc h (fun _ _ => ⟨rfl, rfl⟩) (by decide)
    (by decide) (by decide)
  have hkept := Kept.of_keeps hdoc (readKind_eq_ok_iff.mp h).1
  have hwrapping := get?_writeFields_audio htag hkept.wire
  refine ⟨htag, ?_⟩
  rw [unwrapped_iff htag, ← hwrapping]
  constructor
  · -- A part that is unwrapped further does not keep what wrapped it.
    intro hread inner hinner
    rw [readInputAudio, unwrapAudio_wrapped hinner] at hread
    have hrest := (readKind_eq_ok_iff.mp hread).1.rest
    have hnew : "input_audio" ∉ ["type", "data", "format"] := by decide
    refine not_wrapped_of_merge p.writeFields inner ?_
    rw [← Keyed.get?_without _ hnew, hrest, ← hwrapping]
    exact hinner
  · intro hunwrapped
    rw [readInputAudio, unwrapAudio_eq_self hunwrapped]
    exact hagain

/-! ### Any part -/

theorem read_eq_ok_iff {fs : Fields} {tag : String} {reader : Fields → Checked Part} {p : Part}
    (htag : Keyed.get? fs "type" = some (.text tag)) (hreader : readers.lookup tag = some reader) :
    read (.object fs) = .ok p ↔ reader fs = .ok p := by
  rw [read, tagged_of_lookup htag hreader, Checked.under_ok]

theorem read_write_iff {p : Part} {reader : Fields → Checked Part}
    (hreader : readers.lookup (tag p.body) = some reader) :
    read p.write = .ok p ↔ reader p.writeFields = .ok p :=
  read_eq_ok_iff (by simp [Keyed.get?]) hreader

/-- **A part is read again as it is**, unless a reading unwraps it further. -/
theorem returns : Returns read write Unwrapped := by
  intro v p hv hread
  obtain ⟨fs, t, reader, rfl, hmem, hreader⟩ := exists_of_tagged hread
  have hagain (htag : tag p.body = t) (hlookup : readers.lookup t = some reader) :
      read p.write = .ok p ↔ reader p.writeFields = .ok p :=
    read_write_iff (htag ▸ hlookup)
  have hplain (h : tag p.body = t ∧ reader p.writeFields = .ok p) (hkind : t ≠ "input_audio")
      (hlookup : readers.lookup t = some reader) : read p.write = .ok p ↔ p.Unwrapped :=
    iff_of_true ((hagain h.1 hlookup).mpr h.2) (unwrapped_of_tag (h.1 ▸ hkind))
  simp only [readers, List.mem_cons, List.not_mem_nil, or_false, Prod.mk.injEq] at hmem
  rcases hmem with ⟨rfl, rfl⟩ | ⟨rfl, rfl⟩ | ⟨rfl, rfl⟩ | ⟨rfl, rfl⟩ | ⟨rfl, rfl⟩ | ⟨rfl, rfl⟩ |
    ⟨rfl, rfl⟩
  · exact hplain (readText_writeFields hv hreader (fun _ => ⟨rfl, rfl⟩) (by decide) (by decide))
      (by decide) rfl
  · exact hplain (readOutputText_writeFields hv hreader) (by decide) rfl
  · exact hplain (readText_writeFields hv hreader (fun _ => ⟨rfl, rfl⟩) (by decide) (by decide))
      (by decide) rfl
  · exact hplain (readInputImage_writeFields hv hreader) (by decide) rfl
  · exact hplain (readInputFile_writeFields hv hreader) (by decide) rfl
  · obtain ⟨htag, haudio⟩ := readInputAudio_writeFields hv hreader
    exact (hagain htag rfl).trans haudio
  · exact hplain (readSound_writeFields hv hreader (fun _ _ => ⟨rfl, rfl⟩) (by decide) (by decide)
      (by decide)) (by decide) rfl

end AgentGateway.Part
