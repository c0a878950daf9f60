import AgentGateway.Proofs.Identifier.Partition

/-! A source and all identifiers it makes share one partition key.

The key is the end of the second piece between underscores of the conversation's identifier, and an
identifier that is made ends in the key with one underscore in front of its body. Reading is
therefore inverse to making (`Identifier.partition?_join`) as long as neither the key nor the
category holds an underscore: the key is a part of a piece (`Identifier.partition?_key`), and what
is drawn are letters and digits. -/
namespace AgentGateway

namespace Identifier

/-- A category that is missing, or a text of code points that separate nothing. -/
def IsPlain (category : Option String) : Prop :=
  ∀ s ∈ category, ∃ ns, s.toList = Text.spellAll ns ∧ ∀ n ∈ ns, Plain n

/-- Letters other than the separator make a category. -/
theorem isPlain_of_low {s : String} (h : ∀ c ∈ s.toList, Text.IsLow c ∧ c ≠ '_') :
    IsPlain (some s) := by
  intro t ht
  obtain rfl := Option.some.inj ht
  refine ⟨s.toList.map Char.toNat, ?_, ?_⟩
  · exact (Text.spellAll_of_low fun c hc => (h c hc).1).symm
  · exact List.forall_mem_map.mpr fun c hc => plain_toNat (h c hc)

theorem pieces_plain {s : String} {piece : List Nat} (h : piece ∈ pieces s) :
    ∀ n ∈ piece, Plain n := by
  intro n hn
  obtain ⟨hmem, hne⟩ := Text.mem_of_mem_splitAt (List.mem_filter.mp h).1 n hn
  exact ⟨Text.codes_lt _ n hmem, hne⟩

/-- A partition key separates nothing and has the length of one. -/
theorem partition?_key {l : Layout} {s partition : String} (hentropy : 0 ≤ l.entropy)
    (hpartition : 1 ≤ l.partition) (h : partition? l s = some partition) :
    ∃ key, partition.toList = Text.spellAll key ∧ (key.length : Int) = l.partition ∧
      ∀ n ∈ key, Plain n := by
  unfold partition? at h
  split at h
  next category body others hpieces =>
    split at h
    · cases h
    next hlong =>
      obtain rfl := Option.some.inj h
      have hplain : ∀ n ∈ body, Plain n := pieces_plain (s := s) (by simp [hpieces])
      refine ⟨tail body l.partition, String.toList_ofList, ?_, fun n hn => hplain n ?_⟩
      · rw [tail, if_pos (by omega), List.length_drop]
        omega
      · rw [tail, if_pos (by omega)] at hn
        exact List.mem_of_mem_drop hn
  · cases h

theorem label_plain {category : Option String} (h : IsPlain category) :
    ∃ ns, (label category).toList = Text.spellAll ns ∧ (∀ n ∈ ns, Plain n) ∧ ns ≠ [] := by
  by_cases hempty : (category.getD "").isEmpty
  · refine ⟨"id".toList.map Char.toNat, ?_, List.all_iff_forall_prop.mp (by decide), by decide⟩
    rw [label, if_pos hempty]
    exact (Text.spellAll_of_low (Text.low_of_all (by decide))).symm
  · cases category with
    | none => exact absurd rfl hempty
    | some s =>
      obtain ⟨ns, hs, hplain⟩ := h s rfl
      refine ⟨ns, by rw [label, if_neg hempty]; exact hs, hplain, ?_⟩
      rintro rfl
      exact hempty (by simpa [Text.spellAll] using hs)

theorem not_isEmpty_of_partition? {l : Layout} {s partition : String}
    (h : partition? l s = some partition) : s.isEmpty = false := by
  by_contra hempty
  obtain rfl : s = "" := by simpa using hempty
  cases h

/-- A key that is found by a layout is found by the lengths it comes from. -/
theorem partitionFrom_of_partition? {lengths : Lengths} {l : Layout}
    (hl : lengths.layout? = some l) {s partition : String} (h : partition? l s = some partition) :
    partitionFrom lengths (.text s) = .ok partition := by
  have hcount : lengths.partition.count? = some l.partition := by
    obtain ⟨entropy, -, hrest⟩ := Option.bind_eq_some_iff.mp hl
    obtain ⟨partition, hcount, hlayout⟩ := Option.bind_eq_some_iff.mp hrest
    rw [hcount, ← Option.some.inj hlayout]
  have hvoid : (Value.text s).isVoid = false := not_isEmpty_of_partition? h
  unfold partition? at h
  split at h
  next category body others hpieces =>
    split at h
    · cases h
    next hlong =>
      rw [partitionFrom, if_neg (by simp [hvoid])]
      simpa [hpieces, Lengths.exceed?, hl, hcount, hlong] using h
  · cases h

end Identifier

namespace IdSource

/-- A source that can make identifiers, and whose key can be read back from them. -/
structure Sound (s : IdSource) : Prop where
  entropy : 0 ≤ s.layout.entropy
  partition : 1 ≤ s.layout.partition
  key : ∃ key, s.partition.toList = Text.spellAll key ∧ (key.length : Int) = s.layout.partition ∧
    ∀ n ∈ key, Identifier.Plain n
  conversation : Identifier.partition? s.layout s.conversationId = some s.partition

variable {lengths : Lengths} {l : Layout} {responseId conversationId : Option String}
  {s : IdSource} {e e' : Entropy}

theorem make_sound (hentropy : 0 ≤ l.entropy) (hpartition : 1 ≤ l.partition)
    (h : make responseId conversationId l e = (.ok s, e')) :
    s.layout = l ∧ s.Sound ∧
      s.conversationId = chosen conversationId "conv" l (spared responseId l e) ∧
      e' = spared conversationId l (spared responseId l e) := by
  rw [make_eq hentropy (by omega)] at h
  dsimp only at h
  split at h
  next key hkey =>
    obtain ⟨hs, he'⟩ := Prod.mk.inj h
    obtain rfl := Except.ok.inj hs
    have hkeys := Identifier.partition?_key hentropy hpartition hkey
    exact ⟨rfl, ⟨hentropy, hpartition, hkeys, hkey⟩, rfl, he'.symm⟩
  · cases h

/-- Whatever the category, the key is read back from what is made. -/
theorem Sound.read_named (h : s.Sound) (he : e.Alphanumeric) {category : Option String}
    (hcategory : Identifier.IsPlain category) :
    Identifier.partition? s.layout (s.named (Identifier.label category) e) = some s.partition := by
  obtain ⟨label, hlabel, hlabels, hne⟩ := Identifier.label_plain hcategory
  obtain ⟨key, hkey, hlength, hkeys⟩ := h.key
  have hheld : (s.named (Identifier.label category) e).toList = Text.spellAll
      (label ++ '_'.toNat :: ((e.peek s.layout.entropy.toNat).map Char.toNat ++ key)) := by
    have hdrawn := he.peek_held s.layout.entropy.toNat
    simp only [Text.spellAll, List.flatMap_append, List.flatMap_cons] at hdrawn hlabel hkey ⊢
    rw [hdrawn, ← hlabel, ← hkey]
    simp [named, toString]
    rfl
  have hread := Identifier.partition?_join hheld hlabels (he.peek_plain _) hkeys hne
    (by rw [List.length_map, Entropy.length_peek, Int.toNat_of_nonneg h.entropy])
    hlength (by have := h.partition; omega)
  rw [hread, ← hkey, String.ofList_toList]

/-- Identifiers that are made one after another take one block of characters each. -/
theorem Sound.mapM_generate (h : s.Sound) (categories : List (Option String)) (e : Entropy) :
    categories.mapM s.generate e =
      (.ok (s.names (categories.map Identifier.label) e), s.after categories.length e) := by
  induction categories generalizing e with
  | nil =>
    rw [List.map_nil, names_nil, List.length_nil, after_zero]
    rfl
  | cons category rest ih =>
    rw [List.mapM_cons, Drawing.bind_of_ok (s.generate_eq category e h.entropy),
      Drawing.bind_of_ok (ih (s.after 1 e)), List.map_cons, names_cons, after_after,
      List.length_cons, Nat.add_comm 1]
    rfl

/-- **One key for all.** What a source makes, in whatever categories without an underscore and
however many, is the category with the next block of characters and the key behind it, and the
key is read back from each of them as from the conversation's identifier, however that came
about. So a source for the same conversation by any of its identifiers has the same key. -/
theorem partition_stable (hl : lengths.layout? = some l) (hentropy : 0 ≤ l.entropy)
    (hpartition : 1 ≤ l.partition) (he : e.Alphanumeric)
    (hmake : ofLengths responseId conversationId lengths e = (.ok s, e'))
    {categories : List (Option String)}
    (hcategories : ∀ category ∈ categories, Identifier.IsPlain category) :
    let made := s.names (categories.map Identifier.label) e'
    ((Text.codes s.partition.toList).length : Int) = l.partition ∧
      '_'.toNat ∉ Text.codes s.partition.toList ∧
      Identifier.partitionFrom lengths (.text s.conversationId) = .ok s.partition ∧
      categories.mapM s.generate e' = (.ok made, s.after categories.length e') ∧
      ∀ id ∈ made, Identifier.partitionFrom lengths (.text id) = .ok s.partition ∧
        ∀ responseId e, ∃ other e', ofLengths responseId (some id) lengths e = (.ok other, e') ∧
          other.partition = s.partition := by
  rw [ofLengths_eq hl] at hmake
  obtain ⟨rfl, hsound, -, rfl⟩ := make_sound hentropy hpartition hmake
  obtain ⟨key, hkey, hlength, hkeys⟩ := hsound.key
  have hcodes : Text.codes s.partition.toList = key := by
    rw [hkey, Text.codes_spell fun n hn => (hkeys n hn).1]
  refine ⟨by rw [hcodes, hlength], fun hmem => ?_,
    Identifier.partitionFrom_of_partition? hl hsound.conversation,
    hsound.mapM_generate categories _, fun id hid => ?_⟩
  · exact (hkeys _ (hcodes ▸ hmem)).2 rfl
  · have hread : Identifier.partition? s.layout id = some s.partition := by
      obtain ⟨i, hi, rfl⟩ := List.mem_iff_getElem.mp hid
      simp only [names, List.getElem_mapIdx, List.getElem_map]
      refine hsound.read_named ?_ (hcategories _ (List.getElem_mem _))
      exact spared_alphanumeric (spared_alphanumeric he _ _) _ _
    refine ⟨Identifier.partitionFrom_of_partition? hl hread, fun responseId e => ?_⟩
    have hgiven : chosen (some id) "conv" s.layout (spared responseId s.layout e) = id := by
      simp [chosen, Option.filter, Identifier.not_isEmpty_of_partition? hread]
    have hother := make_eq hentropy (by omega) responseId (some id) e
    simp only [hgiven, hread] at hother
    refine ⟨_, _, (congrFun (ofLengths_eq hl _ _) e).trans hother, ?_⟩
    rfl

/-- A source whose conversation has underscores of its own: its key is the end of the second
piece that is not empty. -/
def chat : IdSource := ⟨⟨2, 3⟩, "resp_abcde", "_chat__abXYZ_more_", "XYZ"⟩

theorem chat_made : ofLengths none (some chat.conversationId) chat.layout.lengths .cyclic =
    (.ok chat, Entropy.cyclic.advance 5) := by
  rw [ofLengths_eq rfl, make_eq (by decide) (by decide)]
  rfl

theorem chat_stable :
    let categories := [none, some "", some "msg"]
    ofLengths none (some chat.conversationId) chat.layout.lengths .cyclic =
        (.ok chat, Entropy.cyclic.advance 5) ∧
      (∀ category ∈ categories, Identifier.IsPlain category) ∧
      categories.mapM chat.generate (Entropy.cyclic.advance 5) =
        (.ok ["id_fgXYZ", "id_hiXYZ", "msg_jkXYZ"], chat.after 3 (Entropy.cyclic.advance 5)) ∧
      ∀ id ∈ ["id_fgXYZ", "id_hiXYZ", "msg_jkXYZ"],
        Identifier.partitionFrom chat.layout.lengths (.text id) = .ok "XYZ" := by
  intro categories
  have hplain : ∀ category ∈ categories, Identifier.IsPlain category := by
    simp only [categories, List.forall_mem_cons]
    refine ⟨fun s hs => ?_, ?_, ?_, by simp⟩
    · cases hs
    · exact Identifier.isPlain_of_low (by simp)
    · exact Identifier.isPlain_of_low (List.all_iff_forall_prop.mp (by decide))
  have hnames : chat.names (categories.map Identifier.label) (Entropy.cyclic.advance 5) =
      ["id_fgXYZ", "id_hiXYZ", "msg_jkXYZ"] := by decide +kernel
  obtain ⟨-, -, -, hmade, hread⟩ :=
    partition_stable rfl (by decide) (by decide) Entropy.cyclic_alphanumeric chat_made hplain
  rw [hnames] at hmade hread
  exact ⟨chat_made, hplain, hmade, fun id hid => (hread id hid).1⟩

end IdSource
end AgentGateway
