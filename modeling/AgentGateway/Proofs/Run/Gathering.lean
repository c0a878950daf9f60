import AgentGateway.Proofs.Run.Chapters

/-! Gathering loses nothing.

Updates are gathered chapter by chapter (`Run.gather_eq`), so what a message holds is what is
merged of its chapter. Merging changes no text and no other content: any reading of contents
one by one in which a text reads as its parts do, and token counts as nothing, is the same
before and after (`Run.read_messages`). `Run.updates_gathered` says all that becomes of updates:
where each one's contents are, that nothing is lost, moved or left apart, and the counts. -/
namespace AgentGateway

namespace Content

def isText (c : Content) : Bool := c.text?.isSome

/-- Neither a text nor token counts. -/
def isOther (c : Content) : Bool := !c.isText && !c.isUsage

theorem isText_iff {c : Content} : c.isText = true ↔ ∃ s, c.body = .text s := by
  obtain ⟨properties, body⟩ := c
  cases body <;> simp [isText, text?]

/-- Not two texts, which would be one. -/
def Apart (c d : Content) : Prop := ¬(c.isText = true ∧ d.isText = true)

end Content

/-- Whether an update brings more than token counts. -/
def Update.speaks (u : Update) : Bool := u.contents.any fun c => !c.isUsage

/-- The place, among the messages, of the one that an update's contents are in. -/
def placeOf (us : List Update) (k : Nat) : Nat :=
  (List.range (chapterOf us k)).countP fun n => (chapter us n).any Update.speaks

namespace Run

/-! ### What a message holds -/

theorem append_ne_nil (contents : List Content) (c : Content) : append contents c ≠ [] := by
  obtain ⟨init, properties, before, s, -, -, h⟩ | h := append_cases contents c <;> simp [h]

/-- What is merged of counts alone is empty, and nothing else is. -/
theorem merged_eq_nil_iff (cs : List Content) :
    merged cs = [] ↔ (cs.any fun c => !c.isUsage) = false := by
  rw [List.any_eq_false, ← List.filter_eq_nil_iff, merged]
  cases cs.filter fun c => !c.isUsage with
  | nil => simp
  | cons c rest =>
    refine iff_of_false ?_ (List.cons_ne_nil _ _)
    exact List.foldlRecOn (motive := (· ≠ [])) rest append (append_ne_nil [] c)
      fun contents _ d _ => append_ne_nil contents d

theorem not_isUsage_of_mem_merged (cs : List Content) : ∀ c ∈ merged cs, c.isUsage = false := by
  refine List.foldlRecOn (motive := fun contents => ∀ c ∈ contents, c.isUsage = false) _ append
    (List.forall_mem_nil _) fun contents hcontents c hc => ?_
  refine (forall_mem_append_iff (fun _ _ _ _ _ => rfl) contents c).mpr ⟨hcontents, ?_⟩
  simpa using (List.mem_filter.mp hc).2

theorem endsInText_of_getLast? {contents : List Content} {c : Content}
    (hlast : contents.getLast? = some c) (hc : c.isText = true) : EndsInText contents := by
  obtain ⟨init, rfl⟩ := List.getLast?_eq_some_iff.mp hlast
  obtain ⟨s, hs⟩ := Content.isText_iff.mp hc
  obtain ⟨properties, body⟩ := c
  cases hs
  exact ⟨init, properties, s, rfl⟩

/-- A content that comes after others is not a text after a text. -/
theorem append_apart {contents : List Content} (h : contents.IsChain Content.Apart) (c : Content) :
    (append contents c).IsChain Content.Apart := by
  by_cases hjoins : EndsInText contents ∧ c.isText = true
  · obtain ⟨⟨init, properties, before, rfl⟩, hc⟩ := hjoins
    obtain ⟨s, hs⟩ := Content.isText_iff.mp hc
    obtain ⟨hinit, -, hbefore⟩ := List.isChain_append.mp h
    rw [append_text init before hs, List.isChain_append]
    refine ⟨hinit, List.isChain_singleton _, fun x hx y hy => ?_⟩
    cases hy
    exact hbefore x hx ⟨properties, .text before⟩ rfl
  · have happend : append contents c = contents ++ [c] := by
      by_cases hends : EndsInText contents
      · exact append_of_not_text fun s hs => hjoins ⟨hends, Content.isText_iff.mpr ⟨s, hs⟩⟩
      · exact append_of_not_endsInText c hends
    rw [happend, List.isChain_append]
    refine ⟨h, List.isChain_singleton _, fun x hx y hy htexts => hjoins ?_⟩
    cases hy
    exact ⟨endsInText_of_getLast? hx htexts.1, htexts.2⟩

theorem merged_apart (cs : List Content) : (merged cs).IsChain Content.Apart :=
  List.foldlRecOn (motive := List.IsChain Content.Apart) _ append List.isChain_nil
    fun _ h c _ => append_apart h c

/-! ### Readings of contents -/

section
variable {β : Type} {read : Content → List β}
  (texts : ∀ p q s t, read ⟨p, .text (s ++ t)⟩ = read ⟨p, .text s⟩ ++ read ⟨q, .text t⟩)
include texts

theorem read_append (contents : List Content) (c : Content) :
    (append contents c).flatMap read = contents.flatMap read ++ read c := by
  obtain ⟨init, properties, before, s, rfl, hs, h⟩ | h := append_cases contents c
  · obtain ⟨p, body⟩ := c
    cases hs
    rw [h, List.flatMap_append, List.flatMap_append, List.flatMap_singleton,
      List.flatMap_singleton, texts properties p, List.append_assoc]
  · rw [h, List.flatMap_append, List.flatMap_singleton]

variable (usages : ∀ p details, read ⟨p, .usage details⟩ = [])
include usages

theorem read_walk (bs : List Beat) (w : Walk) :
    (bs.foldl Walk.step w).contents.flatMap read =
      w.contents.flatMap read ++ (bs.filterMap Beat.content?).flatMap read := by
  induction bs generalizing w with
  | nil => simp
  | cons beat rest ih =>
    rw [List.foldl_cons, ih]
    cases beat with
    | boundary =>
      rw [List.filterMap_cons_none rfl]
      simp [Walk.step, Walk.contents]
    | content c =>
      by_cases husage : ∃ details, c.body = .usage details
      · obtain ⟨details, hc⟩ := husage
        have hnone : read c = [] := by
          obtain ⟨p, body⟩ := c
          cases hc
          exact usages p details
        simp [Walk.step_usage w hc, Walk.contents, Beat.content?, hnone]
      · rw [Walk.step_content w fun details he => husage ⟨details, he⟩]
        simp [Walk.contents, Beat.content?, read_append texts]

/-- A reading of contents one by one is the same of messages as of updates. -/
theorem read_messages (us : List Update) :
    ((ofUpdates us).messages.flatMap Message.contents).flatMap read =
      (us.flatMap Update.contents).flatMap read := by
  rw [contents_ofUpdates, walk_gather, read_walk texts usages, contents_beats]
  rfl

end

/-- A content's text, character by character. -/
def letters (c : Content) : List Char := (c.text?.getD "").toList

theorem letters_eq (cs : List Content) : cs.flatMap letters = (Content.textOf cs).toList := by
  induction cs with
  | nil => rfl
  | cons c rest ih =>
    rw [List.flatMap_cons, ih, Content.textOf, Content.textOf]
    cases hc : c.text? <;> simp [letters, hc]

theorem text_ofUpdates (us : List Update) :
    (ofUpdates us).text = String.join (us.map Update.text) := by
  have htexts : ∀ p q s t, letters ⟨p, .text (s ++ t)⟩ =
      letters ⟨p, .text s⟩ ++ letters ⟨q, .text t⟩ := fun _ _ s t => String.toList_append
  have hread := read_messages htexts (fun _ _ => rfl) us
  rw [List.flatMap_assoc, List.flatMap_assoc] at hread
  simp only [letters_eq] at hread
  rw [← String.toList_inj, text, String.toList_join, String.toList_join, List.flatMap_map,
    List.flatMap_map]
  exact hread

theorem others_ofUpdates (us : List Update) :
    ((ofUpdates us).messages.flatMap Message.contents).filter Content.isOther =
      (us.flatMap Update.contents).filter Content.isOther := by
  have hread (cs : List Content) :
      (cs.flatMap fun c => [c].filter Content.isOther) = cs.filter Content.isOther := by
    rw [← List.filter_flatMap, List.flatMap_singleton']
  rw [← hread, ← hread]
  exact read_messages (fun _ _ _ _ => rfl) (fun _ _ => rfl) us

/-! ### Where contents are -/

/-- What passes a test stands behind all that passes it before. -/
theorem getElem?_filter_of_pos {α : Type} {p : α → Bool} {l : List α} {i : Nat} {a : α}
    (h : l[i]? = some a) (ha : p a = true) : (l.filter p)[(l.take i).countP p]? = some a := by
  obtain ⟨hi, rfl⟩ := List.getElem?_eq_some_iff.mp h
  have hsplit : l.filter p = (l.take i).filter p ++ l[i] :: (l.drop (i + 1)).filter p := by
    rw [← List.filter_cons_of_pos ha, ← List.drop_eq_getElem_cons hi, ← List.filter_append,
      List.take_append_drop]
  rw [hsplit, List.countP_eq_length_filter, List.getElem?_append_right (Nat.le_refl _),
    Nat.sub_self, List.getElem?_cons_zero]

theorem not_isEmpty_ofChapter (us : List Update) :
    (!(Message.ofChapter us).contents.isEmpty) = us.any Update.speaks := by
  have hnil := merged_eq_nil_iff (us.flatMap Update.contents)
  rw [List.any_flatMap, ← List.isEmpty_iff] at hnil
  show (!(merged (us.flatMap Update.contents)).isEmpty) = us.any fun u => u.contents.any _
  rw [Bool.eq_iff_iff, Bool.not_eq_true', ← Bool.not_eq_true, hnil, Bool.not_eq_false]

section
variable {us : List Update} {k : Nat} {u : Update} (hu : us[k]? = some u)
include hu

theorem mem_chapter : u ∈ chapter us (chapterOf us k) := by
  refine List.mem_filterMap.mpr ⟨(u, k), List.mem_zipIdx_iff_getElem?.mpr hu, if_pos rfl⟩

variable (hspeaks : u.speaks = true)
include hspeaks

theorem chapter_speaks : (chapter us (chapterOf us k)).any Update.speaks = true :=
  List.any_eq_true.mpr ⟨u, mem_chapter hu, hspeaks⟩

theorem getElem?_placeOf : (ofUpdates us).messages[placeOf us k]? =
    some (.ofChapter (chapter us (chapterOf us k))) := by
  obtain ⟨hk, -⟩ := List.getElem?_eq_some_iff.mp hu
  have hlast : chapterOf us k ≤ lastChapter us := chapterOf_mono us (by omega)
  have hchapter : ((List.range (lastChapter us + 1)).map fun n => Message.ofChapter (chapter us n))[
      chapterOf us k]? = some (.ofChapter (chapter us (chapterOf us k))) := by
    rw [List.getElem?_map, List.getElem?_range (by omega)]
    rfl
  have hkept := getElem?_filter_of_pos (p := fun m => !m.contents.isEmpty) hchapter
    ((not_isEmpty_ofChapter _).trans (chapter_speaks hu hspeaks))
  have hplace : placeOf us k = ((List.range (chapterOf us k)).map fun n =>
      Message.ofChapter (chapter us n)).countP fun m => !m.contents.isEmpty := by
    rw [List.countP_map, placeOf]
    exact List.countP_congr fun n _ => by
      rw [Function.comp_apply, not_isEmpty_ofChapter]
  rw [messages_ofUpdates, hplace]
  rwa [← List.map_take, List.take_range, Nat.min_eq_left (by omega)] at hkept

/-- Updates share a place exactly if they share a chapter. -/
theorem placeOf_eq_iff {j : Nat} (h : k ≤ j) :
    placeOf us k = placeOf us j ↔ chapterOf us k = chapterOf us j := by
  refine ⟨fun hplace => ?_, fun hchapter => by rw [placeOf, placeOf, hchapter]⟩
  by_contra hne
  have hmono := chapterOf_mono us h
  have hsub : (List.range (chapterOf us k + 1)).Sublist (List.range (chapterOf us j)) :=
    List.range_sublist.mpr (by omega)
  -- The earlier chapter has a message, so the later place is at least one further.
  have hcount := hsub.countP_le (p := fun n => (chapter us n).any Update.speaks)
  rw [List.range_succ, List.countP_append, List.countP_singleton,
    if_pos (chapter_speaks hu hspeaks)] at hcount
  unfold placeOf at hplace
  omega

end

/-- **Gathering loses nothing.** The contents of an update are in the message of its chapter, so
those of two updates are in different messages exactly if a message begins between them. Each
message is one of a chapter; it is not empty, holds no token counts and no two texts side by
side. The texts, one after the other, are those of the updates, all other contents stand as they
did, and the counts add up. -/
theorem updates_gathered (us : List Update) :
    let r := ofUpdates us
    (∀ k u, us[k]? = some u → u.speaks = true → u ∈ chapter us (chapterOf us k) ∧
        r.messages[placeOf us k]? = some (.ofChapter (chapter us (chapterOf us k)))) ∧
      (∀ i j u v, i ≤ j → us[i]? = some u → us[j]? = some v → u.speaks = true → v.speaks = true →
        (placeOf us i ≠ placeOf us j ↔ ∃ k, i < k ∧ k ≤ j ∧ begins us k = true)) ∧
      (∀ m ∈ r.messages, (∃ n, m = .ofChapter (chapter us n)) ∧ m.contents ≠ [] ∧
        (∀ c ∈ m.contents, c.isUsage = false) ∧ m.contents.IsChain Content.Apart) ∧
      r.text = String.join (us.map Update.text) ∧
      (r.messages.flatMap Message.contents).filter Content.isOther =
        (us.flatMap Update.contents).filter Content.isOther ∧
      r.usage =
        (((us.flatMap Update.contents).filterMap Content.counts).map some).foldl Usage.combine none := by
  intro r
  refine ⟨fun k u hu hspeaks => ⟨mem_chapter hu, getElem?_placeOf hu hspeaks⟩, ?_, fun m hm => ?_,
    text_ofUpdates us, others_ofUpdates us, ?_⟩
  · intro i j u v hij hu hv hspeaks _
    rw [Ne, placeOf_eq_iff hu hspeaks hij, chapterOf_eq_iff us hij]
    simp
  · rw [messages_ofUpdates, List.mem_filter] at hm
    obtain ⟨n, -, rfl⟩ := List.mem_map.mp hm.1
    exact ⟨⟨n, rfl⟩, by simpa using hm.2, not_isUsage_of_mem_merged _, merged_apart _⟩
  · rw [usage_ofUpdates, Usage.after_eq_foldl]

/-- Two updates of one message, the second with counts before its text; one of another message
that only counts; and one of a third that calls a function and says something in two pieces. -/
theorem talk_gathered :
    let counts : Usage := ⟨some 3, some 1, none, []⟩
    let call : Content := ⟨none, .functionCall "c" "f" none⟩
    let us : List Update :=
      [⟨⟨some "a", none, none⟩, [.ofText "Hel"]⟩,
        ⟨.none, [⟨none, .usage (some counts)⟩, .ofText "lo"]⟩,
        ⟨⟨some "b", none, none⟩, [⟨none, .usage (some counts)⟩]⟩,
        ⟨⟨some "c", none, none⟩, [call, .ofText " ag", .ofText "ain"]⟩]
    let r := ofUpdates us
    placeOf us 0 = placeOf us 1 ∧ placeOf us 1 ≠ placeOf us 3 ∧
      r.messages[0]? = some ⟨.assistant, [.ofText "Hello"], some "a", none⟩ ∧
      r.messages[1]? = some ⟨.assistant, [call, .ofText " again"], some "c", none⟩ ∧
      r.text = "Hello again" ∧
      (r.messages.flatMap Message.contents).filter Content.isOther = [call] ∧
      r.usage = some ⟨some 6, some 2, none, []⟩ := by
  intro counts call us r
  obtain ⟨hplaces, happart, -, htext, hothers, husage⟩ := updates_gathered us
  refine ⟨?_, (happart 1 3 _ _ (by decide) rfl rfl rfl rfl).mpr ⟨2, by decide, by decide, by decide⟩,
    (hplaces 1 _ rfl rfl).2, (hplaces 3 _ rfl rfl).2, htext, hothers, husage⟩
  refine not_not.mp fun hne => ?_
  obtain ⟨k, hk, hk', hbegins⟩ := (happart 0 1 _ _ (by decide) rfl rfl rfl rfl).mp hne
  obtain rfl : k = 1 := by omega
  cases hbegins

end Run
end AgentGateway
