import AgentGateway.Proofs.Identifier.Stability
import Mathlib.Data.List.DropRight

/-! Reading a partition key off an identifier.

Separators cut an identifier into words: an empty piece counts for nothing, so separators may stand
at either end and any number of them between two words. The key is the end of the second word, if
that has room for both parts of a body (`Identifier.key_extracted`). What is read off an identifier
that was made here is the key that it was made with, unless keys have no characters: where the last
none are asked for, all of the body is given. -/
namespace AgentGateway

namespace Text
variable {α : Type} [DecidableEq α] {mark : α} {a word rest : List α}

/-- The pieces between separators that are not empty. -/
def words (mark : α) (a : List α) : List (List α) := (splitAt mark a).filter fun p => !p.isEmpty

/-- A row begins with a word, maybe behind separators, and ends or goes on with a separator. -/
structure Leads (mark : α) (a word rest : List α) : Prop where
  parts : ∃ n, a = List.replicate n mark ++ (word ++ rest)
  nonempty : word ≠ []
  unmarked : mark ∉ word
  apart : ∀ c ∈ rest.head?, c = mark

theorem words_mark (a : List α) : words mark (mark :: a) = words mark a := by
  simp [words, splitAt]

theorem words_marks (n : Nat) (a : List α) :
    words mark (List.replicate n mark ++ a) = words mark a := by
  induction n with
  | zero => rfl
  | succ n ih => rw [List.replicate_succ, List.cons_append, words_mark, ih]

theorem words_append (hword : word ≠ []) (hmark : mark ∉ word)
    (hrest : ∀ c ∈ rest.head?, c = mark) :
    words mark (word ++ rest) = word :: words mark rest := by
  cases rest with
  | nil =>
    rw [List.append_nil, words, splitAt_of_not_mem hmark]
    simp [words, splitAt, hword]
  | cons c b =>
    obtain rfl : c = mark := hrest c rfl
    rw [words_mark, words, splitAt_append hmark]
    simp [words, hword]

/-- A row without a word is separators only; any other begins with one. -/
theorem exists_leads (h : words mark a ≠ []) : ∃ word rest, Leads mark a word rest := by
  induction a with
  | nil => exact absurd rfl h
  | cons c a ih =>
    by_cases hc : c = mark
    · subst hc
      rw [words_mark] at h
      obtain ⟨word, rest, ⟨n, rfl⟩, hword, hmark, hrest⟩ := ih h
      exact ⟨word, rest, ⟨n + 1, rfl⟩, hword, hmark, hrest⟩
    · refine ⟨(c :: a).takeWhile (· != mark), (c :: a).dropWhile (· != mark), ⟨0, ?_⟩, ?_, ?_, ?_⟩
      · exact List.takeWhile_append_dropWhile.symm
      · simp [hc]
      · exact fun hmem => by simpa using List.mem_takeWhile_imp hmem
      · intro d hd
        have hstop := List.head?_dropWhile_not (· != mark) (c :: a)
        rw [Option.mem_def.mp hd] at hstop
        simpa using hstop

/-- The words of a row are the one that it begins with and those of the rest. -/
theorem words_eq_cons_iff {others : List (List α)} :
    words mark a = word :: others ↔ ∃ rest, Leads mark a word rest ∧ words mark rest = others := by
  have hleads {word rest : List α} (h : Leads mark a word rest) :
      words mark a = word :: words mark rest := by
    obtain ⟨⟨n, rfl⟩, hword, hmark, hrest⟩ := h
    rw [words_marks, words_append hword hmark hrest]
  constructor
  · intro h
    obtain ⟨first, rest, hfirst⟩ := exists_leads (by rw [h]; exact List.cons_ne_nil _ _)
    obtain ⟨rfl, rfl⟩ := List.cons.inj ((hleads hfirst).symm.trans h)
    exact ⟨rest, hfirst, rfl⟩
  · rintro ⟨rest, h, rfl⟩
    exact hleads h

end Text

namespace Identifier

/-- The code points of an identifier begin with a word, and what follows begins with this one. -/
def SecondWord (s : String) (body : List Nat) : Prop :=
  ∃ first rest others, Text.Leads '_'.toNat (Text.codes s.toList) first rest ∧
    Text.Leads '_'.toNat rest body others

theorem secondWord_iff {s : String} {body : List Nat} :
    SecondWord s body ↔ ∃ first others, pieces s = first :: body :: others := by
  show _ ↔ ∃ first others, Text.words _ _ = first :: body :: others
  constructor
  · rintro ⟨first, rest, others, hfirst, hsecond⟩
    have hrest := Text.words_eq_cons_iff.mpr ⟨others, hsecond, rfl⟩
    exact ⟨first, _, Text.words_eq_cons_iff.mpr ⟨rest, hfirst, hrest⟩⟩
  · rintro ⟨first, others, h⟩
    obtain ⟨rest, hfirst, hrest⟩ := Text.words_eq_cons_iff.mp h
    obtain ⟨more, hsecond, -⟩ := Text.words_eq_cons_iff.mp hrest
    exact ⟨first, rest, more, hfirst, hsecond⟩

theorem SecondWord.unique {s : String} {body body' : List Nat} (h : SecondWord s body)
    (h' : SecondWord s body') : body = body' := by
  obtain ⟨_, _, hpieces⟩ := secondWord_iff.mp h
  obtain ⟨_, _, hpieces'⟩ := secondWord_iff.mp h'
  simp_all

theorem SecondWord.nonempty {s : String} {body : List Nat} (h : SecondWord s body) : body ≠ [] := by
  obtain ⟨_, _, _, -, hsecond⟩ := h
  exact hsecond.nonempty

theorem SecondWord.plain {s : String} {body : List Nat} (h : SecondWord s body) :
    ∀ n ∈ body, Plain n := by
  obtain ⟨_, _, hpieces⟩ := secondWord_iff.mp h
  exact pieces_plain (s := s) (by simp [hpieces])

/-! ### Reading -/

/-- What is read off a body: its end, or all of it where the end is of no length. -/
def ending (body : List Nat) (p : Nat) : List Nat := if p = 0 then body else body.rtake p

theorem tail_eq_ending (body : List Nat) (p : Nat) : tail body p = ending body p := by
  unfold tail ending List.rtake
  cases p with
  | zero => rfl
  | succ p => simp

/-- An identifier is measured against lengths as against the layout they come from. -/
theorem partitionFrom_eq (l : Layout) (s : String) :
    partitionFrom l.lengths (.text s) = partition l (some s) := by
  have hexceed (n : Nat) :
      l.lengths.exceed? n = some (decide ((n : Int) < l.entropy + l.partition)) := rfl
  have hcount : l.lengths.partition.count? = some l.partition := rfl
  by_cases hs : s = ""
  · subst hs
    rfl
  · have hvoid : (Value.text s).isVoid = false := by simpa [Value.isVoid] using hs
    rw [partitionFrom, if_neg (by simp [hvoid]), partition, Option.bind_some, partition?]
    rcases hpieces : pieces s with _ | ⟨first, _ | ⟨body, others⟩⟩
    · rfl
    · rfl
    · simp only [hexceed, hcount]
      by_cases hshort : (body.length : Int) < l.entropy + l.partition
      · simp only [hshort, decide_true, if_true]
        rfl
      · simp only [hshort, decide_false, if_false]

section
variable (e p : Nat) {s : String}

/-- An identifier whose second word has room for both parts gives the end of it. -/
theorem read_of_room {body : List Nat} (h : SecondWord s body) (hroom : e + p ≤ body.length) :
    partitionFrom (Layout.lengths ⟨e, p⟩) (.text s) =
      .ok (String.ofList (Text.spellAll (ending body p))) := by
  obtain ⟨first, others, hpieces⟩ := secondWord_iff.mp h
  have hlong : ¬(body.length : Int) < e + p := by omega
  rw [partitionFrom_eq, partition, Option.bind_some, partition?]
  simp only [hpieces, if_neg hlong, tail_eq_ending]

/-- Any other identifier is refused. -/
theorem read_of_no_room (h : ∀ body, SecondWord s body → body.length < e + p) :
    partitionFrom (Layout.lengths ⟨e, p⟩) (.text s) =
      .error (.report (.malformedIdentifier (.text s))) := by
  rw [partitionFrom_eq, partition, Option.bind_some, partition?]
  rcases hpieces : pieces s with _ | ⟨first, _ | ⟨body, others⟩⟩
  · rfl
  · rfl
  · have hshort := h body (secondWord_iff.mpr ⟨first, others, hpieces⟩)
    have hless : (body.length : Int) < e + p := by omega
    simp only [if_pos hless]
    rfl

end

theorem length_ending {body : List Nat} {p : Nat} (hp : p ≠ 0) (hroom : p ≤ body.length) :
    (ending body p).length = p := by
  rw [ending, if_neg hp, List.rtake, List.length_drop]
  omega

theorem codes_ending {body : List Nat} (hplain : ∀ n ∈ body, Plain n) (p : Nat) :
    Text.codes (Text.spellAll (ending body p)) = ending body p := by
  refine Text.codes_spell fun n hn => (hplain n ?_).1
  unfold ending at hn
  split at hn
  · exact hn
  · exact List.mem_of_mem_drop hn

/-! ### Reading what was made -/

/-- A text of so many code points, none of them a separator. -/
def IsKey (p : Nat) (key : String) : Prop :=
  ∃ ns, key.toList = Text.spellAll ns ∧ ns.length = p ∧ ∀ n ∈ ns, Plain n

/-- The partition key of a new identifier: the one that is given, or what is drawn for one. -/
def keyOf (l : Layout) (given : Option String) (entropy : Entropy) : String :=
  given.getD (String.ofList ((entropy.advance l.entropy.toNat).peek l.partition.toNat))

theorem fresh_made (category : String) (e p : Nat) (given : Option String) (entropy : Entropy) :
    let id := s!"{category}_{String.ofList (entropy.peek e)}{keyOf ⟨e, p⟩ given entropy}"
    ∃ entropy', fresh category ⟨e, p⟩ given entropy = (.ok id, entropy') := by
  cases given with
  | some key =>
    refine ⟨entropy.advance e, ?_⟩
    rw [fresh_in_partition, if_neg (by simp)]
    rfl
  | none =>
    refine ⟨entropy.advance (Layout.size ⟨e, p⟩), ?_⟩
    rw [fresh_drawn category (by simp) (by simp), Layout.size, Entropy.peek_add,
      String.ofList_append]
    simp [keyOf, toString, String.append_assoc]

/-- What is drawn for a key is one. -/
theorem isKey_drawn {entropy : Entropy} (h : entropy.Alphanumeric) (e p : Nat) :
    IsKey p (keyOf ⟨e, p⟩ none entropy) := by
  have hrest : (entropy.advance e).Alphanumeric := h
  refine ⟨((entropy.advance e).peek p).map Char.toNat, ?_, ?_, hrest.peek_plain p⟩
  · rw [hrest.peek_held, keyOf, Option.getD_none, String.toList_ofList]
    rfl
  · rw [List.length_map, Entropy.length_peek]

/-- The code points of an identifier that was made, from those of its parts. -/
theorem held_made {category key : String} {ns ks : List Nat}
    (hcategory : category.toList = Text.spellAll ns) (hkey : key.toList = Text.spellAll ks)
    {entropy : Entropy} (h : entropy.Alphanumeric) (e : Nat) :
    (s!"{category}_{String.ofList (entropy.peek e)}{key}").toList =
      Text.spellAll (ns ++ '_'.toNat :: ((entropy.peek e).map Char.toNat ++ ks)) := by
  have hdrawn := h.peek_held e
  simp only [Text.spellAll, List.flatMap_append, List.flatMap_cons] at hdrawn hcategory hkey ⊢
  rw [hdrawn, ← hcategory, ← hkey]
  simp [toString]
  rfl

section
variable {category body : List Nat} {s : String}
  (hs : s.toList = Text.spellAll (category ++ '_'.toNat :: body))
  (hcategories : ∀ n ∈ category, Plain n) (hbodies : ∀ n ∈ body, Plain n)
  (hcategory : category ≠ [])
include hs hcategories hbodies hcategory

/-- The second word of an identifier that was made is its body. -/
theorem secondWord_made (hbody : body ≠ []) : SecondWord s body :=
  secondWord_iff.mpr ⟨category, [], pieces_join hs hcategories hbodies hcategory hbody⟩

/-- An identifier that was made has no second word other than its body. -/
theorem body_of_secondWord {body' : List Nat} (h : SecondWord s body') : body' = body := by
  obtain ⟨first, others, hpieces⟩ := secondWord_iff.mp h
  have hcodes : ∀ n ∈ category ++ '_'.toNat :: body, n < 0x110000 :=
    List.forall_mem_append.mpr ⟨fun n hn => (hcategories n hn).1,
      List.forall_mem_cons.mpr ⟨by decide, fun n hn => (hbodies n hn).1⟩⟩
  by_cases hbody : body = []
  · have hone : pieces s = [category] := by
      show Text.words _ _ = _
      rw [hs, Text.codes_spell hcodes, hbody,
        Text.words_append hcategory (fun h => (hcategories _ h).2 rfl) (by simp), Text.words_mark]
      rfl
    simp [hone] at hpieces
  · exact h.unique (secondWord_made hs hcategories hbodies hcategory hbody)

end

/-- What is read off a new identifier: its key, if keys have characters, and else the ones that
were drawn before it, if there are any. -/
theorem read_made {category key : String} {p : Nat} {entropy : Entropy} (e : Nat)
    (hplain : IsPlain (some category)) (hcategory : category ≠ "") (hkey : IsKey p key)
    (h : entropy.Alphanumeric) :
    let id := s!"{category}_{String.ofList (entropy.peek e)}{key}"
    partitionFrom (Layout.lengths ⟨e, p⟩) (.text id) =
      if p ≠ 0 then .ok key
      else if e ≠ 0 then .ok (String.ofList (entropy.peek e))
      else .error (.report (.malformedIdentifier (.text id))) := by
  intro id
  obtain ⟨ns, hns, hnsPlain⟩ := hplain category rfl
  obtain ⟨ks, hks, hlength, hksPlain⟩ := hkey
  have hne : ns ≠ [] := by
    rintro rfl
    exact hcategory (by simpa [Text.spellAll] using hns)
  have hheld := held_made hns hks h e
  have hbodies := List.forall_mem_append.mpr ⟨h.peek_plain e, hksPlain⟩
  have hsize : ((entropy.peek e).map Char.toNat ++ ks).length = e + p := by
    rw [List.length_append, List.length_map, Entropy.length_peek, hlength]
  have hread (hroom : e + p ≠ 0) := read_of_room e p
    (secondWord_made hheld hnsPlain hbodies hne (List.ne_nil_of_length_pos (by omega)))
    (Nat.le_of_eq hsize.symm)
  by_cases hp : p = 0
  · obtain rfl : ks = [] := List.eq_nil_of_length_eq_zero (by omega)
    rw [if_neg (by simpa using hp)]
    by_cases he : e = 0
    · rw [if_neg (by simpa using he)]
      refine read_of_no_room e p fun body hbody => ?_
      have hbody' := body_of_secondWord hheld hnsPlain hbodies hne hbody
      exact absurd (List.eq_nil_of_length_eq_zero (by rw [hbody', hsize]; omega)) hbody.nonempty
    · rw [if_pos he, hread (by omega), ending, if_pos hp, List.append_nil, h.peek_held]
  · rw [if_pos hp, hread (by omega), ending, if_neg hp, List.rtake, hsize]
    rw [show e + p - p = ((entropy.peek e).map Char.toNat).length by
      rw [List.length_map, Entropy.length_peek]; omega, List.drop_left, ← hks, String.ofList_toList]

/-- **The key of an identifier.** It is read if and only if there is a second word with room for
both parts of a body, and then it is the end of that word, which is as long as keys are; anything
else is refused. From what is made here, in any category without an underscore, the key comes back
that was given or drawn.

Keys of no length are the exception: they are granted (nothing is drawn for them), but the end that
is cut off behind no character is all of the body. So the random characters are read for the key,
and an identifier of no characters at all is refused. -/
theorem key_extracted (e p : Nat) :
    (∀ s, ((∃ key, partitionFrom (Layout.lengths ⟨e, p⟩) (.text s) = .ok key) ↔
        ∃ body, SecondWord s body ∧ e + p ≤ body.length) ∧
      (∀ body, SecondWord s body → e + p ≤ body.length →
        let key := String.ofList (Text.spellAll (ending body p))
        partitionFrom (Layout.lengths ⟨e, p⟩) (.text s) = .ok key ∧
          Text.codes key.toList = ending body p ∧ (p ≠ 0 → (ending body p).length = p)) ∧
      ((∀ body, SecondWord s body → body.length < e + p) →
        partitionFrom (Layout.lengths ⟨e, p⟩) (.text s) =
          .error (.report (.malformedIdentifier (.text s))))) ∧
    ∀ category given entropy, IsPlain (some category) → category ≠ "" → entropy.Alphanumeric →
      (∀ key ∈ given, IsKey p key) →
      ∃ id entropy', fresh category ⟨e, p⟩ given entropy = (.ok id, entropy') ∧
        partitionFrom (Layout.lengths ⟨e, p⟩) (.text id) =
          if p ≠ 0 then .ok (keyOf ⟨e, p⟩ given entropy)
          else if e ≠ 0 then .ok (String.ofList (entropy.peek e))
          else .error (.report (.malformedIdentifier (.text id))) := by
  refine ⟨fun s => ⟨⟨?_, ?_⟩, ?_, read_of_no_room e p⟩, ?_⟩
  · rintro ⟨key, hkey⟩
    by_contra hnone
    rw [read_of_no_room e p (by simpa using hnone)] at hkey
    cases hkey
  · rintro ⟨body, hbody, hroom⟩
    exact ⟨_, read_of_room e p hbody hroom⟩
  · intro body hbody hroom key
    refine ⟨read_of_room e p hbody hroom, ?_, fun hp => length_ending hp (by omega)⟩
    rw [String.toList_ofList, codes_ending hbody.plain]
  · intro category given entropy hplain hcategory hentropy hgiven
    have hkey : IsKey p (keyOf ⟨e, p⟩ given entropy) := by
      cases given with
      | none => exact isKey_drawn hentropy e p
      | some key => exact hgiven key rfl
    obtain ⟨entropy', hfresh⟩ := fresh_made category e p given entropy
    exact ⟨_, entropy', hfresh, read_made e hplain hcategory hkey hentropy⟩

/-- A made identifier with a key that was given, and the same characters read without a key. -/
theorem unkeyed_extracted :
    (∃ id entropy', fresh "c" ⟨3, 3⟩ (some "def") Entropy.cyclic = (.ok id, entropy') ∧
      partitionFrom (Layout.lengths ⟨3, 3⟩) (.text id) = .ok "def") ∧
    SecondWord "__c__abcdef_g" ("abcdef".toList.map Char.toNat) ∧
    partitionFrom (Layout.lengths ⟨3, 3⟩) (.text "__c__abcdef_g") = .ok "def" ∧
    partitionFrom (Layout.lengths ⟨6, 0⟩) (.text "__c__abcdef_g") = .ok "abcdef" ∧
    ¬IsKey 0 "abcdef" := by
  have hsecond : SecondWord "__c__abcdef_g" ("abcdef".toList.map Char.toNat) :=
    secondWord_iff.mpr ⟨[99], [[103]], by decide +kernel⟩
  have hcategory : IsPlain (some "c") := isPlain_of_low (List.all_iff_forall_prop.mp (by decide))
  have hkey : IsKey 3 "def" :=
    ⟨"def".toList.map Char.toNat, by decide, by decide, List.all_iff_forall_prop.mp (by decide)⟩
  have hmade := (key_extracted 3 3).2 "c" (some "def") _ hcategory (by decide)
    Entropy.cyclic_alphanumeric (by simpa using hkey)
  have hkeyed := (((key_extracted 3 3).1 _).2.1 _ hsecond (by decide)).1
  have hunkeyed := (((key_extracted 6 0).1 _).2.1 _ hsecond (by decide)).1
  refine ⟨hmade, hsecond, hkeyed, hunkeyed, ?_⟩
  rintro ⟨ns, hns, hlength, -⟩
  rw [List.eq_nil_of_length_eq_zero hlength] at hns
  exact absurd hns (by decide)

end Identifier
end AgentGateway
