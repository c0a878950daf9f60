import AgentGateway.Proofs.Item.Conveying
import AgentGateway.Proofs.Projection.Course

/-! The output of a projection, and the materialized run of the same updates.

`output_materializes`: where a run ends well, its output is what becomes of the materialized
run's contents one by one, those aside that no builder supports; its token counts are the
materialized run's; and its deltas are the texts that are not empty. Nothing is lost, told
twice or moved.

The invariant is `Shows`: what the finished items show is all that a walk of the same beats
has gathered, but for the last text while its item is open. -/
namespace AgentGateway

/-! ### What becomes of some contents -/

namespace BuilderKind
variable {kinds : List BuilderKind} {c : Content}

theorem item_of_part {k : BuilderKind} {part : Part} (hs : k.supports c = true)
    (hp : k.part? c = some part) : c.item = .message "" .completed [part] := by
  have hshown : c.shown = [part] := by
    rw [Content.shown, ofContent_of_part hs hp]
    rfl
  rw [← hshown]
  unfold Content.item
  split
  · cases k <;> simp [part?, *] at hp
  · cases k <;> simp [part?, *] at hp
  · rfl

end BuilderKind

namespace Projection
open Run (Walk)

/-- What becomes of some contents, one by one, those aside that no kind supports. -/
def items (kinds : List BuilderKind) (cs : List Content) : List Item :=
  (cs.filter (BuilderKind.supported kinds)).map Content.item

section
variable {kinds : List BuilderKind} {cs : List Content} {c : Content}

theorem items_append (cs more : List Content) :
    items kinds (cs ++ more) = items kinds cs ++ items kinds more := by
  rw [items, List.filter_append, List.map_append]
  rfl

theorem items_concat (h : BuilderKind.supported kinds c = true) :
    items kinds (cs ++ [c]) = items kinds cs ++ [c.item] := by
  rw [items_append]
  simp [items, h]

theorem items_concat_unsupported (h : BuilderKind.supported kinds c = false) :
    items kinds (cs ++ [c]) = items kinds cs := by
  rw [items_append]
  simp [items, h]

end

/-- What is told of a content whole ends with what becomes of it. -/
theorem finished_whole {k : BuilderKind} {c : Content} (hs : k.supports c = true) (ht : k ≠ .text)
    (index : Int) (id : String) :
    (finished (ItemBuilder.opening k index id c)).map Item.sansId = [c.item] := by
  obtain ⟨callId, name, arguments, hc, h⟩ | ⟨callId, result, failure, hc, h⟩ | ⟨part, hp, h⟩ :=
    BuilderKind.opening_whole hs ht index id
  · rw [h, Content.item, hc]
    rfl
  · rw [h, Content.item, hc]
    rfl
  · rw [h, BuilderKind.item_of_part hs hp]
    rfl

/-! ### Account and walk -/

/-- What an account shows of a walk. While a text item is open its text is the walk's last
content and no item shows it yet; while none is, no further text may join the last content. -/
inductive Shows (kinds : List BuilderKind) (a : Account) (w : Walk) : Prop where
  | closed (h : a.Closed) (usage : a.usage = w.usage)
      (output : a.output.map Item.sansId = items kinds w.contents)
      (apart : .text ∈ kinds → ¬Run.EndsInText w.current)
  | opened {index : Int} {id : String} {chunks : List String} {init : List Content}
      {properties : Option Fields} (h : a.builder = some (openText index id chunks))
      (usage : a.usage = w.usage) (hk : .text ∈ kinds)
      (current : w.current = init ++ [⟨properties, .text (String.join chunks)⟩])
      (output : a.output.map Item.sansId = items kinds (w.before ++ init))

/-- A content that no kind supports becomes nothing, also where it joins another one. -/
theorem items_unsupported {kinds : List BuilderKind} {c : Content} (before contents : List Content)
    (h : ∀ k ∈ kinds, k.supports c = false) :
    items kinds (before ++ Run.append contents c) = items kinds (before ++ contents) := by
  obtain ⟨init, properties, t, s, rfl, hs, happend⟩ | happend := Run.append_cases contents c
  · have hno (t : String) : BuilderKind.supported kinds ⟨properties, .text t⟩ = false := by
      refine BuilderKind.supported_eq_false fun k hk => ?_
      rw [BuilderKind.supports_of_text rfl, ← BuilderKind.supports_of_text hs]
      exact h k hk
    rw [happend, ← List.append_assoc, ← List.append_assoc, items_concat_unsupported (hno _),
      items_concat_unsupported (hno _)]
  · rw [happend, ← List.append_assoc,
      items_concat_unsupported (BuilderKind.supported_eq_false h)]

namespace Shows
variable {kinds : List BuilderKind} {l : Layout} {a a' : Account} {w : Walk}

theorem usage_eq (h : Shows kinds a w) : a.usage = w.usage := by
  cases h with
  | closed _ usage => exact usage
  | opened _ usage => exact usage

/-- Once the open item is closed everything is shown. -/
theorem closing (h : Shows kinds a w) :
    a.closed.output.map Item.sansId = items kinds w.contents := by
  cases h with
  | closed h _ output =>
    rw [Account.closed_of_closed h]
    exact output
  | @opened _ _ chunks init properties h _ hk current output =>
    have htext := BuilderKind.supported_text (c := ⟨properties, .text (String.join chunks)⟩) rfl hk
    rw [Account.closed_of_open h, List.map_append, output, Walk.contents, current,
      ← List.append_assoc, items_concat htext, Content.item_text rfl]
    rfl

/-- A text that goes on in its open item joins the last content. -/
theorem joined {index : Int} {id : String} {chunks : List String} {c : Content} {s : String}
    (h : Shows kinds a w) (hb : a.builder = some (openText index id chunks))
    (hc : c.body = .text s) :
    Shows kinds { a with builder := some (openText index id (chunks ++ pieces s)) }
      { w with current := Run.append w.current c } := by
  cases h with
  | closed h _ => cases h _ hb
  | @opened _ _ _ init properties h usage hk current output =>
    rw [hb, Option.some.injEq, openText, openText, ItemBuilder.mk.injEq] at h
    obtain ⟨-, -, -, -, hchunks⟩ := h
    have hjoined : Run.append w.current c =
        init ++ [⟨properties, .text (String.join (chunks ++ pieces s))⟩] := by
      rw [current, Run.append_text init _ hc, ← hchunks, String.join_append, join_pieces]
    exact .opened rfl usage hk hjoined output

/-- A text that opens an item of its own is a content of its own. -/
theorem begun {c : Content} {s : String} (id : String) (h : Shows kinds a w) (ha : a.Closed)
    (hk : .text ∈ kinds) (hc : c.body = .text s) :
    Shows kinds
      { a with builder := some (openText a.nextIndex id (pieces s)), nextIndex := a.nextIndex + 1 }
      { w with current := Run.append w.current c } := by
  obtain ⟨properties, body⟩ := c
  cases hc
  cases h with
  | opened h => cases ha _ h
  | closed _ usage output apart =>
    have hnew : Run.append w.current ⟨properties, .text s⟩ =
        w.current ++ [⟨properties, .text (String.join (pieces s))⟩] := by
      rw [join_pieces, Run.append_of_not_endsInText _ (apart hk)]
    exact .opened rfl usage hk hnew output

/-- What is told of a content whole shows it at once. -/
theorem whole {k : BuilderKind} {b : ItemBuilder} {c : Content} (id : String)
    (h : Shows kinds a w) (hk : k ∈ kinds) (hs : k.supports c = true) (ht : k ≠ .text)
    (hb : b.completed = true) :
    Shows kinds
      { a.closed with
        builder := some b
        output := a.closed.output ++ finished (ItemBuilder.opening k a.nextIndex id c)
        nextIndex := a.nextIndex + 1 }
      { w with current := Run.append w.current c } := by
  have htext := BuilderKind.not_text_of_supports hs ht
  refine .closed (fun b' hb' => ?_) h.usage_eq ?_ fun _ => Run.not_endsInText_append htext
  · cases hb'
    exact hb
  · show (a.closed.output ++ _).map Item.sansId = items kinds (w.before ++ Run.append w.current c)
    rw [List.map_append, h.closing, finished_whole hs ht, Run.append_of_not_text htext,
      ← List.append_assoc, items_concat (BuilderKind.supported_of_supports hk hs)]
    rfl

theorem tells {beat : Beat} {told : List Event.Body} (h : Shows kinds a w)
    (ht : Tells kinds l a beat told a') : Shows kinds a' (w.step beat) := by
  cases ht with
  | boundary =>
    refine .closed (.closed a) h.usage_eq ?_ fun _ => Run.not_endsInText_nil
    rw [h.closing]
    simp [Walk.step, Walk.contents]
  | @usage _ details hc =>
    rw [Walk.step_usage w hc]
    have husage := congrArg (Usage.combine · details) h.usage_eq
    cases h with
    | closed h _ output apart => exact .closed h husage output apart
    | opened h _ hk current output => exact .opened h husage hk current output
  | delta hb hc =>
    rw [Walk.step_content w (Content.not_usage_of_text hc)]
    exact h.joined hb hc
  | @dropped c hc unsupported =>
    rw [Walk.step_content w hc]
    refine .closed (.closed a) h.usage_eq ?_ fun hk => ?_
    · rw [h.closing]
      exact (items_unsupported w.before w.current unsupported).symm
    · refine Run.not_endsInText_append fun s hs => ?_
      exact BuilderKind.not_mem_of_unsupported_text hs unsupported hk
  | text id _ hk hb hc =>
    rw [Walk.step_content w (Content.not_usage_of_text hc)]
    exact h.begun id hb hk hc
  | whole id _ hk hs ht hb =>
    rw [Walk.step_content w (BuilderKind.not_usage_of_supports hs)]
    exact h.whole id hk hs ht hb

theorem tale {bs : List Beat} {told : List Event.Body} (h : Shows kinds a w)
    (ht : Tale kinds l a bs told a') : Shows kinds a' (bs.foldl Walk.step w) := by
  induction ht generalizing w with
  | nil => exact h
  | cons head _ ih => exact ih (h.tells head)

end Shows

/-- A tale of updates from the start ends with an account that shows their materialized run. -/
theorem Tale.materializes {kinds : List BuilderKind} {l : Layout} {a : Account} {us : List Update}
    {told : List Event.Body} (h : Tale kinds l .empty (beats none us) told a) :
    (a.closed.output.map Item.sansId =
        items kinds ((Run.ofUpdates us).messages.flatMap Message.contents)) ∧
      a.closed.usage = (Run.ofUpdates us).usage := by
  have hempty : Shows kinds .empty .empty :=
    .closed (fun b hb => by cases hb) rfl rfl fun _ => Run.not_endsInText_nil
  have hshows := hempty.tale h
  rw [← Run.walk_gather] at hshows
  refine ⟨?_, hshows.usage_eq⟩
  rw [Run.contents_ofUpdates, hshows.closing]

/-! ### Deltas -/

/-- The text that a delta brings. -/
def deltaText? : Event.Body → Option String
  | .textDelta _ _ _ s _ => some s
  | _ => none

def deltaTexts (told : List Event.Body) : List String := told.filterMap deltaText?

/-- The texts of some contents that are not empty. -/
def nonemptyTexts (cs : List Content) : List String :=
  (cs.filterMap Content.text?).filter fun s => !s.isEmpty

theorem deltaTexts_append (told more : List Event.Body) :
    deltaTexts (told ++ more) = deltaTexts told ++ deltaTexts more := List.filterMap_append

theorem deltaTexts_deltas (index : Int) (id s : String) :
    deltaTexts (ItemBuilder.deltas index id s) = pieces s := by
  by_cases h : s.isEmpty = true <;> simp [ItemBuilder.deltas, pieces, deltaTexts, deltaText?, h]

theorem deltaTexts_closing {a : Account} (h : a.Resting) : deltaTexts a.closing = [] := by
  obtain hclosed | ⟨index, id, chunks, hopen⟩ := h
  · rw [Account.closing_of_closed hclosed]
    rfl
  · rw [Account.closing_of_open hopen]
    rfl

theorem nonemptyTexts_append (cs more : List Content) :
    nonemptyTexts (cs ++ more) = nonemptyTexts cs ++ nonemptyTexts more := by
  rw [nonemptyTexts, List.filterMap_append, List.filter_append]
  rfl

theorem nonemptyTexts_text {c : Content} {s : String} (hc : c.body = .text s) (cs : List Content) :
    nonemptyTexts (c :: cs) = pieces s ++ nonemptyTexts cs := by
  by_cases h : s.isEmpty = true <;> simp [nonemptyTexts, pieces, Content.text?, hc, h]

theorem nonemptyTexts_not_text {c : Content} (hc : ∀ s, c.body ≠ .text s) (cs : List Content) :
    nonemptyTexts (c :: cs) = nonemptyTexts cs := by
  have hnone : c.text? = none := by
    unfold Content.text?
    split
    · exact absurd ‹_› (hc _)
    · rfl
  rw [nonemptyTexts, List.filterMap_cons_none hnone]
  rfl

/-- The deltas of one beat, where texts are supported. -/
theorem Tells.deltaTexts_eq {kinds : List BuilderKind} {l : Layout} {a a' : Account} {beat : Beat}
    {told : List Event.Body} (h : Tells kinds l a beat told a') (hk : .text ∈ kinds)
    (ha : a.Resting) : deltaTexts told = nonemptyTexts beat.content?.toList := by
  cases h with
  | boundary => exact deltaTexts_closing ha
  | usage hc =>
    exact (nonemptyTexts_not_text (by simp [hc]) []).symm
  | delta hb hc =>
    rw [deltaTexts_deltas]
    exact ((nonemptyTexts_text hc []).trans (List.append_nil _)).symm
  | dropped hc unsupported =>
    rw [deltaTexts_closing ha]
    refine (nonemptyTexts_not_text (fun s hs => ?_) []).symm
    exact BuilderKind.not_mem_of_unsupported_text hs unsupported hk
  | text id _ _ _ hc =>
    rw [opening_text hc, deltaTexts_append, deltaTexts_deltas]
    exact ((nonemptyTexts_text hc []).trans (List.append_nil _)).symm
  | @whole c k _ id _ _ hs ht =>
    have hnone (index : Int) : deltaTexts (ItemBuilder.opening k index id c) = [] := by
      obtain ⟨_, _, _, _, h⟩ | ⟨_, _, _, _, h⟩ | ⟨_, _, h⟩ := BuilderKind.opening_whole hs ht index id
      all_goals
        rw [h]
        rfl
    rw [deltaTexts_append, deltaTexts_closing ha, hnone]
    exact (nonemptyTexts_not_text (BuilderKind.not_text_of_supports hs ht) []).symm

theorem Tale.deltaTexts_eq {kinds : List BuilderKind} {l : Layout} {a a' : Account}
    {bs : List Beat} {told : List Event.Body} (h : Tale kinds l a bs told a') (hk : .text ∈ kinds)
    (ha : a.Resting) : deltaTexts told = nonemptyTexts (bs.filterMap Beat.content?) := by
  induction h with
  | nil => rfl
  | @cons _ _ _ beat rest _ _ head tail ih =>
    rw [deltaTexts_append, head.deltaTexts_eq hk ha, ih (head.resting ha), ← nonemptyTexts_append]
    cases beat <;> rfl

/-- **The output of a run that ends well** is what becomes, one by one, of the contents of the
materialized run. The token counts are that run's, and the deltas are its updates' texts. -/
theorem output_materializes {g : Setting} {supply : Supply} {reason : Option Value}
    {cancelled : Bool} {source : List RunStep}
    (h : (project g (State.fresh supply reason cancelled) source).failure = none) :
    ((project g (State.fresh supply reason cancelled) source).state.output.map Item.sansId =
        items g.kinds ((Run.ofUpdates (updatesOf source)).messages.flatMap Message.contents)) ∧
      (project g (State.fresh supply reason cancelled) source).state.usage =
        (Run.ofUpdates (updatesOf source)).usage ∧
      (.text ∈ g.kinds →
        deltaTexts (project g (State.fresh supply reason cancelled) source).bodies =
          nonemptyTexts ((updatesOf source).flatMap Update.contents)) := by
  obtain ⟨told, a, kind, last, htale, -, hbodies, haccount⟩ := project_tale h
  obtain ⟨houtput, husage⟩ := htale.materializes
  have hresting : Account.empty.Resting := .inl fun b hb => by cases hb
  refine ⟨?_, (congrArg Account.usage haccount).trans husage, fun hk => ?_⟩
  · rw [← houtput]
    exact congrArg (fun a => a.output.map Item.sansId) haccount
  · have hfirst (r s : Response) :
        deltaTexts [.envelope .created r, .envelope .inProgress s] = [] := rfl
    have hlast : deltaTexts [.envelope kind last] = [] := rfl
    rw [hbodies, deltaTexts_append, deltaTexts_append, deltaTexts_append, hfirst, hlast,
      deltaTexts_closing (htale.resting hresting), htale.deltaTexts_eq hk hresting,
      contents_beats, List.append_nil, List.append_nil, List.nil_append]

theorem cutShort_materializes :
    cutShort.failure = none ∧
      (cutShort.state.output.map Item.sansId = items BuilderKind.extended
        ((Run.ofUpdates (updatesOf cutShortSteps)).messages.flatMap Message.contents)) ∧
      cutShort.state.usage = (Run.ofUpdates (updatesOf cutShortSteps)).usage ∧
      deltaTexts cutShort.bodies =
        nonemptyTexts ((updatesOf cutShortSteps).flatMap Update.contents) := by
  have h : cutShort.failure = none := rfl
  obtain ⟨houtput, husage, htexts⟩ := output_materializes h
  exact ⟨h, houtput, husage, htexts (by decide)⟩

end Projection
end AgentGateway
