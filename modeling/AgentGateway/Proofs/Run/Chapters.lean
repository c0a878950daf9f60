import AgentGateway.Proofs.Run.Boundary
import Mathlib.Data.List.Chain
import Mathlib.Data.List.Induction

/-! The chapters of some updates.

A chapter begins with the first update and with every boundary, so two updates are in one
chapter exactly if no message begins between them (`chapterOf_eq_iff`), and the chapters, one
after the other, are the updates (`flatten_chapters`). `gather_eq`: gathering makes a message of
each chapter. Its identity is that of the chapter's first update, and its contents are those of
the chapter's updates, without token counts and with adjacent texts made one. -/
namespace AgentGateway

/-! ### Chapters -/

/-- Whether an update begins another message than the updates before it belong to. -/
def begins (us : List Update) (k : Nat) : Bool :=
  Update.isNewMessage us[k]? (carried none (us.take k))

/-- The number of the chapter that an update is in: how often a message has begun so far. -/
def chapterOf (us : List Update) (k : Nat) : Nat := (List.range (k + 1)).countP (begins us)

/-- The number of the last chapter. -/
def lastChapter (us : List Update) : Nat := chapterOf us (us.length - 1)

/-- The updates of one chapter, in order. -/
def chapter (us : List Update) (n : Nat) : List Update :=
  us.zipIdx.filterMap fun e => if chapterOf us e.2 = n then some e.1 else none

theorem chapterOf_zero (us : List Update) : chapterOf us 0 = 0 := by
  cases us <;> rfl

theorem chapterOf_succ (us : List Update) (k : Nat) :
    chapterOf us (k + 1) = chapterOf us k + if begins us (k + 1) then 1 else 0 := by
  rw [chapterOf, List.range_succ, List.countP_append, List.countP_singleton]
  rfl

theorem chapterOf_mono (us : List Update) {i j : Nat} (h : i ≤ j) :
    chapterOf us i ≤ chapterOf us j := by
  induction j, h using Nat.le_induction with
  | base => exact Nat.le_refl _
  | succ j _ ih =>
    rw [chapterOf_succ]
    omega

/-- Two updates are in one chapter exactly if no message begins between them. -/
theorem chapterOf_eq_iff (us : List Update) {i j : Nat} (h : i ≤ j) :
    chapterOf us i = chapterOf us j ↔ ∀ k, i < k → k ≤ j → begins us k = false := by
  induction j, h using Nat.le_induction with
  | base => exact iff_of_true rfl fun k hik hki => absurd hki (by omega)
  | succ j hij ih =>
    have hmono := chapterOf_mono us hij
    rw [chapterOf_succ]
    cases hlast : begins us (j + 1) with
    | true =>
      refine iff_of_false (by simp; omega) fun hquiet => ?_
      rw [hquiet (j + 1) (by omega) (Nat.le_refl _)] at hlast
      cases hlast
    | false =>
      refine ih.trans ⟨fun hquiet k hik hkj => ?_, fun hquiet k hik hkj => hquiet k hik (by omega)⟩
      obtain rfl | hkj : k = j + 1 ∨ k ≤ j := by omega
      · exact hlast
      · exact hquiet k hik hkj

/-! ### One update more -/

section
variable (us : List Update) (u : Update)

theorem begins_concat_of_lt {k : Nat} (h : k < us.length) : begins (us ++ [u]) k = begins us k := by
  rw [begins, List.getElem?_append_left h, List.take_append_of_le_length (Nat.le_of_lt h)]
  rfl

theorem begins_concat : begins (us ++ [u]) us.length =
    Update.isNewMessage (some u) (carried none us) := by
  rw [begins, List.getElem?_concat_length, List.take_left]

theorem carried_concat : carried none (us ++ [u]) = some (u.carry (carried none us)) := by
  rw [carried, List.foldl_append]
  rfl

theorem chapterOf_concat_of_lt {k : Nat} (h : k < us.length) :
    chapterOf (us ++ [u]) k = chapterOf us k :=
  List.countP_congr fun i hi => by
    rw [begins_concat_of_lt us u (by have := List.mem_range.mp hi; omega)]

theorem lastChapter_concat : lastChapter (us ++ [u]) = chapterOf (us ++ [u]) us.length := by
  rw [lastChapter, List.length_append, List.length_singleton, Nat.add_sub_cancel]

/-- An update that begins a message comes in a chapter of its own, any other in the last one. -/
theorem lastChapter_concat_eq (h : us ≠ []) : lastChapter (us ++ [u]) =
    lastChapter us + if Update.isNewMessage (some u) (carried none us) then 1 else 0 := by
  have hpos := List.length_pos_iff.mpr h
  have hlast : chapterOf (us ++ [u]) (us.length - 1) = lastChapter us :=
    chapterOf_concat_of_lt us u (by omega)
  have hsucc := chapterOf_succ (us ++ [u]) (us.length - 1)
  rwa [Nat.sub_add_cancel hpos, ← lastChapter_concat, hlast, begins_concat] at hsucc

theorem chapter_concat (n : Nat) : chapter (us ++ [u]) n =
    chapter us n ++ if lastChapter (us ++ [u]) = n then [u] else [] := by
  have hbefore : us.zipIdx.filterMap (fun e =>
      if chapterOf (us ++ [u]) e.2 = n then some e.1 else none) = chapter us n := by
    refine List.filterMap_congr fun e he => ?_
    rw [chapterOf_concat_of_lt us u (by simpa using List.snd_lt_of_mem_zipIdx he)]
  rw [chapter, List.zipIdx_append, List.filterMap_append, hbefore, lastChapter_concat]
  by_cases hn : chapterOf (us ++ [u]) us.length = n <;> simp [hn]

end

theorem chapter_eq_nil {us : List Update} {n : Nat} (h : lastChapter us < n) : chapter us n = [] := by
  refine List.filterMap_eq_nil_iff.mpr fun e he => if_neg ?_
  have hlt : e.2 < us.length := by simpa using List.snd_lt_of_mem_zipIdx he
  have hmono : chapterOf us e.2 ≤ lastChapter us := chapterOf_mono us (by omega)
  omega

theorem chapter_last_ne_nil {us : List Update} (h : us ≠ []) : chapter us (lastChapter us) ≠ [] := by
  rw [← List.dropLast_concat_getLast h, chapter_concat, if_pos rfl]
  simp

section
variable {us : List Update} (u : Update)

/-- The chapters that are over stay as they are. -/
theorem chapter_concat_of_lt {n : Nat} (h : n < lastChapter (us ++ [u])) :
    chapter (us ++ [u]) n = chapter us n := by
  rw [chapter_concat, if_neg (Nat.ne_of_gt h), List.append_nil]

/-- A boundary begins a chapter. -/
theorem chapters_of_boundary (h : us ≠ [])
    (hnew : Update.isNewMessage (some u) (carried none us) = true) :
    lastChapter (us ++ [u]) = lastChapter us + 1 ∧
      chapter (us ++ [u]) (lastChapter us + 1) = [u] := by
  have hlast : lastChapter (us ++ [u]) = lastChapter us + 1 := by
    rw [lastChapter_concat_eq us u h, if_pos hnew]
  refine ⟨hlast, ?_⟩
  rw [chapter_concat, chapter_eq_nil (Nat.lt_succ_self _), if_pos hlast, List.nil_append]

/-- Without one the last chapter goes on. -/
theorem chapters_of_no_boundary (h : us ≠ [])
    (hon : Update.isNewMessage (some u) (carried none us) = false) :
    lastChapter (us ++ [u]) = lastChapter us ∧
      chapter (us ++ [u]) (lastChapter us) = chapter us (lastChapter us) ++ [u] := by
  have hlast : lastChapter (us ++ [u]) = lastChapter us := by
    rw [lastChapter_concat_eq us u h, hon]
    rfl
  exact ⟨hlast, by rw [chapter_concat, if_pos hlast]⟩

end

/-- The chapters, one after the other, are the updates. -/
theorem flatten_chapters (us : List Update) :
    (List.range (lastChapter us + 1)).flatMap (chapter us) = us := by
  induction us using List.reverseRecOn with
  | nil => rfl
  | append_singleton us u ih =>
    by_cases hne : us = []
    · subst hne
      rfl
    have hbefore : (List.range (lastChapter (us ++ [u]))).flatMap (chapter (us ++ [u])) =
        (List.range (lastChapter (us ++ [u]))).flatMap (chapter us) :=
      List.flatMap_congr fun n hn => chapter_concat_of_lt u (List.mem_range.mp hn)
    rw [List.range_succ, List.flatMap_append, hbefore, List.flatMap_singleton]
    cases hnew : Update.isNewMessage (some u) (carried none us) with
    | true =>
      obtain ⟨hlast, hchapter⟩ := chapters_of_boundary u hne hnew
      rw [hlast, hchapter, ih]
    | false =>
      obtain ⟨hlast, hchapter⟩ := chapters_of_no_boundary u hne hnew
      rw [List.range_succ, List.flatMap_append, List.flatMap_singleton] at ih
      rw [hlast, hchapter, ← List.append_assoc, ih]

/-! ### The message of a chapter -/

namespace Run

/-- Contents as a message holds them: without token counts, and adjacent texts made one. -/
def merged (cs : List Content) : List Content := (cs.filter fun c => !c.isUsage).foldl append []

theorem merged_append (cs ds : List Content) : merged (cs ++ ds) =
    (ds.filter fun c => !c.isUsage).foldl append (merged cs) := by
  rw [merged, List.filter_append, List.foldl_append]
  rfl

end Run

/-- The message that gathering makes of a chapter. -/
def Message.ofChapter (us : List Update) : Message :=
  { role := (us.head?.bind fun u => u.identity.role).getD .assistant
    contents := Run.merged (us.flatMap Update.contents)
    author := us.head?.bind fun u => u.identity.author
    id := us.head?.bind fun u => u.identity.message }

theorem Message.ofChapter_concat {us : List Update} (h : us ≠ []) (u : Update) :
    ofChapter (us ++ [u]) = { ofChapter us with
      contents := (u.contents.filter fun c => !c.isUsage).foldl Run.append (ofChapter us).contents } := by
  obtain ⟨first, rest, rfl⟩ := List.exists_cons_of_ne_nil h
  simp only [ofChapter, List.flatMap_append, List.flatMap_singleton, Run.merged_append]
  rfl

namespace Run

namespace Gathering

theorem take_eq (m : Message) (usage : Option Usage) (cs : List Content) : take m usage cs =
    ({ m with contents := (cs.filter fun c => !c.isUsage).foldl append m.contents },
      Usage.after usage cs) := by
  induction cs generalizing m usage with
  | nil => rfl
  | cons c rest ih =>
    by_cases husage : ∃ details, c.body = .usage details
    · obtain ⟨details, hc⟩ := husage
      have hafter : Usage.after usage (c :: rest) =
          Usage.after (Usage.combine usage details) rest := by
        simp only [Usage.after, List.foldl_cons, Content.counts, hc]
      rw [hafter, List.filter_cons_of_neg (by simp [Content.isUsage, hc]), ← ih]
      simp only [take, hc]
    · have hc : ∀ details, c.body ≠ .usage details := fun details he => husage ⟨details, he⟩
      have hafter : Usage.after usage (c :: rest) = Usage.after usage rest := by
        simp only [Usage.after, List.foldl_cons, Content.counts_of_not_usage hc,
          Usage.combine_none_right]
      have hkept : c.isUsage = false :=
        Bool.eq_false_iff.mpr fun h => husage (Content.isUsage_iff.mp h)
      have htake : take m usage (c :: rest) =
          take { m with contents := append m.contents c } usage rest := by
        simp only [take]
      rw [htake, hafter, ih, List.filter_cons_of_pos (by simp [hkept]), List.foldl_cons]

theorem take_opened (u : Update) (usage : Option Usage) :
    take (opened u) usage u.contents = (.ofChapter [u], Usage.after usage u.contents) := by
  rw [take_eq]
  simp [opened, Message.ofChapter, merged]

end Gathering

/-- Gathering makes a message of each chapter. -/
theorem gather_eq {us : List Update} (h : us ≠ []) : gather us =
    ⟨(List.range (lastChapter us)).map fun n => .ofChapter (chapter us n),
      some (.ofChapter (chapter us (lastChapter us))), Usage.after none (us.flatMap Update.contents),
      carried none us⟩ := by
  induction us using List.reverseRecOn with
  | nil => exact absurd rfl h
  | append_singleton us u ih =>
    by_cases hne : us = []
    · subst hne
      have hfirst : gather [u] = ⟨[], some (.ofChapter [u]), Usage.after none u.contents,
          some (u.carry none)⟩ := by
        show Gathering.step .empty u = _
        simp only [Gathering.step, Gathering.empty, Gathering.take_opened]
      have hlast : lastChapter [u] = 0 := chapterOf_zero [u]
      rw [List.nil_append, hfirst, hlast, List.flatMap_singleton]
      rfl
    have hbefore : (List.range (lastChapter (us ++ [u]))).map
        (fun n => Message.ofChapter (chapter (us ++ [u]) n)) =
          (List.range (lastChapter (us ++ [u]))).map fun n => .ofChapter (chapter us n) :=
      List.map_congr_left fun n hn => by rw [chapter_concat_of_lt u (List.mem_range.mp hn)]
    have husage : Usage.after none ((us ++ [u]).flatMap Update.contents) =
        Usage.after (Usage.after none (us.flatMap Update.contents)) u.contents := by
      rw [List.flatMap_append, List.flatMap_singleton]
      exact List.foldl_append
    rw [gather_append, ih hne, hbefore, husage, carried_concat]
    cases hnew : Update.isNewMessage (some u) (carried none us) with
    | true =>
      obtain ⟨hlast, hchapter⟩ := chapters_of_boundary u hne hnew
      simp only [List.foldl_cons, List.foldl_nil, Gathering.step, hnew, if_true,
        Gathering.take_opened, hlast, hchapter, List.range_succ, List.map_append,
        List.map_singleton]
    | false =>
      obtain ⟨hlast, hchapter⟩ := chapters_of_no_boundary u hne hnew
      rw [hlast, hchapter, Message.ofChapter_concat (chapter_last_ne_nil hne)]
      simp only [List.foldl_cons, List.foldl_nil, Gathering.step, hnew, Bool.false_eq_true, if_false,
        Gathering.take_eq]

/-- The messages of a materialized run are those of the chapters, without the empty ones. -/
theorem messages_ofUpdates (us : List Update) : (ofUpdates us).messages =
    ((List.range (lastChapter us + 1)).map fun n => Message.ofChapter (chapter us n)).filter
      fun m => !m.contents.isEmpty := by
  by_cases h : us = []
  · subst h
    rfl
  · rw [List.range_succ, List.map_append, List.map_singleton]
    show Gathering.messages (gather us) = _
    rw [gather_eq h]
    rfl

theorem usage_ofUpdates (us : List Update) :
    (ofUpdates us).usage = Usage.after none (us.flatMap Update.contents) := by
  by_cases h : us = []
  · subst h
    rfl
  · show (gather us).usage = _
    rw [gather_eq h]

end Run
end AgentGateway
