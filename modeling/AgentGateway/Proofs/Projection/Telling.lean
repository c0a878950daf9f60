import AgentGateway.Proofs.Identifier.Drawing
import AgentGateway.Proofs.ItemBuilder.Support
import AgentGateway.Proofs.Projection.Numbering
import AgentGateway.Proofs.Projection.Tale

/-! What a projection tells of contents.

`content_tells`: a content that does not end the run is one of the things that a beat can
do, and `contents_told`: contents one after the other tell a tale, and if one of them ends the
run, the tale of some beats. Where identifiers can be drawn, only a content that cannot be spelled
ends it (`contents_failure`). -/
namespace AgentGateway.Projection

/-! ### What the events of a builder tell -/

theorem bodies_emitAll (s : Supply) (told : List Event.Body) :
    (s.emitAll told).1.map Event.body = told := by
  induction told generalizing s with
  | nil => rfl
  | cons body rest ih =>
    simp only [Supply.emitAll, Supply.emit, List.map_cons, ih]
    rfl

theorem close_tells (p : State) :
    (close p).failure = none ∧ (close p).bodies = p.account.closing ∧
      (close p).state.account = p.account.closed := by
  unfold close
  cases hb : p.builder with
  | none =>
    have hclosing : p.account.closing = [] := by simp [Account.closing, State.account, hb]
    refine ⟨rfl, by rw [hclosing]; rfl, ?_⟩
    rw [Account.closed, hclosing]
    simp [State.account, finished, hb]
  | some b =>
    have hclosing : p.account.closing = b.completion := by
      simp [Account.closing, State.account, hb]
    have hbodies := bodies_emitAll p.supply b.completion
    refine ⟨rfl, ?_, ?_⟩
    · simpa only [hclosing, Stretch.bodies, Stretch.events, List.map_map, Function.comp_def]
        using hbodies
    · rw [Account.closed, hclosing]
      simp [State.account, doneItems_eq, hbodies]

theorem emitBodies_tells (p : State) (b : ItemBuilder) (told : List Event.Body) :
    (emitBodies p b told).failure = none ∧ (emitBodies p b told).bodies = told ∧
      (emitBodies p b told).state.account =
        { p.account with
          builder := some (told.foldl ItemBuilder.after b)
          output := p.output ++ finished told } := by
  induction told generalizing p b with
  | nil => exact ⟨rfl, rfl, by simp [emitBodies, Stretch.quiet, State.account, finished]⟩
  | cons body rest ih =>
    obtain ⟨hends, hbodies, haccount⟩ := ih (emitBody p b body).state (b.after body)
    refine ⟨hends, ?_, ?_⟩
    · show body :: (emitBodies (emitBody p b body).state (b.after body) rest).bodies = _
      rw [hbodies]
    · show (emitBodies (emitBody p b body).state (b.after body) rest).state.account = _
      rw [haccount]
      cases hitem : bodyItem? body <;>
        simp [emitBody, Supply.emit, State.account, doneItem?_eq, Event.plain, finished, hitem]

/-! ### Telling a content -/

theorem draw_eq (s : Supply) (k : BuilderKind) :
    ∃ category, s.draw (ItemBuilder.drawId k) =
      ((s.ids.generate (some category) s.entropy).1,
        { s with entropy := (s.ids.generate (some category) s.entropy).2 }) := by
  cases k <;> exact ⟨_, rfl⟩

theorem draw_of_drawable (s : Supply) (k : BuilderKind) (h : 0 ≤ s.ids.layout.entropy) :
    ∃ id supply, s.draw (ItemBuilder.drawId k) = (.ok id, supply) := by
  obtain ⟨category, hdraw⟩ := draw_eq s k
  obtain ⟨id, e, hd⟩ := s.ids.generate_of_drawable (some category) s.entropy h
  rw [hdraw, hd]
  exact ⟨id, _, rfl⟩

theorem draw_of_negative (s : Supply) (k : BuilderKind) (h : s.ids.layout.entropy < 0) :
    ∃ f supply, s.draw (ItemBuilder.drawId k) = (.error f, supply) := by
  obtain ⟨category, hdraw⟩ := draw_eq s k
  rw [hdraw, s.ids.generate_of_negative (some category) s.entropy h]
  exact ⟨_, _, rfl⟩

theorem tell_open (p : State) (index : Int) (id : String) (chunks : List String) {c : Content}
    {s : String} (hc : c.body = .text s) :
    tell p (openText index id chunks) c =
      emitBodies p (openText index id chunks) (ItemBuilder.deltas index id s) := by
  simp [tell, ItemBuilder.start, ItemBuilder.accept, openText, BuilderKind.supports,
    Content.kindName, ItemBuilder.unfold, Content.text?, hc, bind, Except.bind, pure, Except.pure]

/-- A new builder draws its item's identifier and then tells the content, or fails. -/
theorem tell_new (p : State) {k : BuilderKind} (index : Int) {c : Content}
    (hs : k.supports c = true) :
    tell p (ItemBuilder.new k index) c = match p.supply.draw (ItemBuilder.drawId k) with
      | (.ok id, supply) =>
        emitBodies { p with supply } ⟨k, index, k != .text, some id, []⟩
          (ItemBuilder.opening k index id c)
      | (.error f, supply) =>
        .failed { p with supply, builder := some ⟨k, index, k != .text, none, []⟩ } f := by
  simp only [tell, ItemBuilder.start, ItemBuilder.accept, ItemBuilder.new, hs, bind, Except.bind,
    pure, Except.pure, ItemBuilder.unfold, if_true, Bool.false_eq_true, if_false]
  cases p.supply.draw (ItemBuilder.drawId k) with
  | mk result supply => cases result <;> rfl

theorem foldl_after_deltas (b : ItemBuilder) (index : Int) (id s : String) :
    (ItemBuilder.deltas index id s).foldl ItemBuilder.after b =
      { b with chunks := b.chunks ++ pieces s } := by
  by_cases h : s.isEmpty = true <;> simp [ItemBuilder.deltas, pieces, h, ItemBuilder.after]

theorem finished_deltas (index : Int) (id s : String) :
    finished (ItemBuilder.deltas index id s) = [] := by
  by_cases h : s.isEmpty = true <;> simp [ItemBuilder.deltas, finished, h, bodyItem?]

theorem opening_text {c : Content} {s : String} (hc : c.body = .text s) (index : Int)
    (id : String) :
    ItemBuilder.opening .text index id c =
      [.itemAdded index (.message id .inProgress []), .partAdded id index 0 (.outputText "")] ++
        ItemBuilder.deltas index id s := by
  simp only [ItemBuilder.opening, hc]

theorem foldl_after_text {c : Content} {s : String} (hc : c.body = .text s) (index : Int)
    (id : String) :
    (ItemBuilder.opening .text index id c).foldl ItemBuilder.after
      ⟨.text, index, false, some id, []⟩ = openText index id (pieces s) := by
  rw [opening_text hc, List.foldl_append, foldl_after_deltas]
  rfl

theorem finished_text {c : Content} {s : String} (hc : c.body = .text s) (index : Int)
    (id : String) : finished (ItemBuilder.opening .text index id c) = [] := by
  rw [opening_text hc, finished, List.filterMap_append]
  exact finished_deltas index id s

/-- The events of a content that is told whole leave its builder as it is. -/
theorem foldl_after_whole {k : BuilderKind} {c : Content} (hs : k.supports c = true)
    (ht : k ≠ .text) (b : ItemBuilder) (index : Int) (id : String) :
    (ItemBuilder.opening k index id c).foldl ItemBuilder.after b = b := by
  obtain ⟨_, _, _, _, h⟩ | ⟨_, _, _, _, h⟩ | ⟨_, _, h⟩ :=
    BuilderKind.opening_whole hs ht index id
  all_goals
    rw [h]
    rfl

/-- What follows a content that the open builder does not take: a new builder of the first
kind that supports it, where there is one. -/
def introduce (g : Setting) (p : State) (c : Content) : Stretch :=
  match openBuilder g p c with
  | some (b, p) => tellFirst p b c
  | none => .quiet p

theorem tellFirst_of_spelled {p : State} {b : ItemBuilder} {c : Content} (h : c.limit? = none) :
    tellFirst p b c = tell p b c := by
  rw [tellFirst, h]

/-- Where an identifier can be drawn, a content that cannot be spelled ends the run as such. -/
theorem tellFirst_of_limit {p : State} {b : ItemBuilder} {c : Content} {l : Limit}
    (hl : c.limit? = some l) (h : 0 ≤ p.supply.ids.layout.entropy) :
    (tellFirst p b c).failure = some (.ofLimit l) := by
  obtain ⟨id, supply, hd⟩ := draw_of_drawable p.supply b.kind h
  unfold tellFirst
  simp only [hl, hd]
  split <;> rfl

theorem introduce_unsupported {g : Setting} {p : State} {c : Content}
    (h : ∀ k ∈ g.kinds, k.supports c = false) : introduce g p c = .quiet p := by
  have hfind : (g.kinds.find? fun k => k.supports c) = none := by
    rw [List.find?_eq_none]
    intro k hk
    simp [h k hk]
  simp only [introduce, openBuilder, hfind, Option.map_none]

theorem unsupported_of_not_exists {kinds : List BuilderKind} {c : Content}
    (h : ¬∃ k ∈ kinds, k.supports c = true) : ∀ k ∈ kinds, k.supports c = false := by
  intro k hk
  cases hs : k.supports c with
  | false => rfl
  | true => exact absurd ⟨k, hk, hs⟩ h

theorem find_supporting {kinds : List BuilderKind} {c : Content}
    (h : ∃ k ∈ kinds, k.supports c = true) :
    ∃ k ∈ kinds, k.supports c = true ∧ (kinds.find? fun k => k.supports c) = some k := by
  cases hfind : kinds.find? fun k => k.supports c with
  | none =>
    obtain ⟨k, hk, hs⟩ := h
    exact absurd hs (by simpa using List.find?_eq_none.mp hfind k hk)
  | some k =>
    exact ⟨k, List.mem_of_find?_eq_some hfind, by simpa using List.find?_some hfind, rfl⟩

theorem introduce_of_find {g : Setting} {p : State} {c : Content} {k : BuilderKind}
    (hfind : (g.kinds.find? fun k => k.supports c) = some k) :
    introduce g p c =
      tellFirst
        { p with
          builder := some (ItemBuilder.new k p.nextIndex)
          nextIndex := p.nextIndex + 1
          phase := .streaming }
        (ItemBuilder.new k p.nextIndex) c := by
  simp only [introduce, openBuilder, hfind, Option.map_some]

/-- A content that can be spelled draws its item's identifier and is told, or fails. -/
theorem introduce_of_spelled {g : Setting} {p : State} {c : Content} {k : BuilderKind}
    (hs : k.supports c = true) (hfind : (g.kinds.find? fun k => k.supports c) = some k)
    (hl : c.limit? = none) :
    introduce g p c = match p.supply.draw (ItemBuilder.drawId k) with
      | (.ok id, supply) =>
        emitBodies
          { p with
            supply
            builder := some (ItemBuilder.new k p.nextIndex)
            nextIndex := p.nextIndex + 1
            phase := .streaming }
          ⟨k, p.nextIndex, k != .text, some id, []⟩ (ItemBuilder.opening k p.nextIndex id c)
      | (.error f, supply) =>
        .failed
          { p with
            supply
            builder := some ⟨k, p.nextIndex, k != .text, none, []⟩
            nextIndex := p.nextIndex + 1
            phase := .streaming } f := by
  rw [introduce_of_find hfind, tellFirst_of_spelled hl]
  exact tell_new _ p.nextIndex hs

/-- A new builder tells what the item of its content is opened with, or ends the run. -/
theorem introduce_cases {g : Setting} {p : State} {c : Content} {k : BuilderKind}
    (hs : k.supports c = true) (hfind : (g.kinds.find? fun k => k.supports c) = some k) :
    (0 ≤ p.supply.ids.layout.entropy ∧ c.limit? = none ∧ ∃ id supply, introduce g p c =
        emitBodies
          { p with
            supply
            builder := some (ItemBuilder.new k p.nextIndex)
            nextIndex := p.nextIndex + 1
            phase := .streaming }
          ⟨k, p.nextIndex, k != .text, some id, []⟩ (ItemBuilder.opening k p.nextIndex id c)) ∨
      (introduce g p c).bodies = [] ∧ ∃ f, (introduce g p c).failure = some f ∧
        (0 ≤ p.supply.ids.layout.entropy → c.limit?.map Failure.ofLimit = some f) := by
  cases hl : c.limit? with
  | some l =>
    refine .inr ?_
    rw [introduce_of_find hfind]
    obtain ⟨hnone, -⟩ | ⟨-, entropy, f, hfails⟩ := tellFirst_cases
      { p with
        builder := some (ItemBuilder.new k p.nextIndex)
        nextIndex := p.nextIndex + 1
        phase := .streaming } (ItemBuilder.new k p.nextIndex) c
    · rw [hl] at hnone
      cases hnone
    · refine ⟨by rw [hfails]; rfl, f, by rw [hfails]; rfl, fun h => ?_⟩
      have hlimit := tellFirst_of_limit (p := { p with
        builder := some (ItemBuilder.new k p.nextIndex)
        nextIndex := p.nextIndex + 1
        phase := .streaming }) (b := ItemBuilder.new k p.nextIndex) hl h
      rw [hfails] at hlimit
      exact hlimit.symm
  | none =>
    rw [introduce_of_spelled hs hfind hl]
    by_cases hdrawable : 0 ≤ p.supply.ids.layout.entropy
    · obtain ⟨id, supply, hd⟩ := draw_of_drawable p.supply k hdrawable
      rw [hd]
      exact .inl ⟨hdrawable, rfl, id, supply, rfl⟩
    · obtain ⟨f, supply, hd⟩ := draw_of_negative p.supply k (by omega)
      rw [hd]
      exact .inr ⟨rfl, f, rfl, fun h => absurd h hdrawable⟩

/-- What a content tells that a new builder takes, in a run that goes on. -/
theorem introduce_tells {g : Setting} {p : State} {c : Content}
    (hsupported : ∃ k ∈ g.kinds, k.supports c = true) (h : (introduce g p c).failure = none) :
    ∃ k ∈ g.kinds, k.supports c = true ∧ 0 ≤ p.supply.ids.layout.entropy ∧
      ∃ id, (introduce g p c).bodies = ItemBuilder.opening k p.nextIndex id c ∧
        (introduce g p c).state.account =
          ⟨some ((ItemBuilder.opening k p.nextIndex id c).foldl ItemBuilder.after
              ⟨k, p.nextIndex, k != .text, some id, []⟩),
            p.output ++ finished (ItemBuilder.opening k p.nextIndex id c), p.usage,
            p.nextIndex + 1⟩ := by
  obtain ⟨k, hk, hs, hfind⟩ := find_supporting hsupported
  refine ⟨k, hk, hs, ?_⟩
  obtain ⟨hdrawable, -, id, supply, htold⟩ | ⟨-, f, hfails, -⟩ := introduce_cases (p := p) hs hfind
  · obtain ⟨-, hbodies, haccount⟩ := emitBodies_tells
      { p with
        supply
        builder := some (ItemBuilder.new k p.nextIndex)
        nextIndex := p.nextIndex + 1
        phase := .streaming }
      ⟨k, p.nextIndex, k != .text, some id, []⟩ (ItemBuilder.opening k p.nextIndex id c)
    rw [htold]
    exact ⟨hdrawable, id, hbodies, haccount⟩
  · rw [hfails] at h
    cases h

/-- Where an identifier can be drawn, or none is needed, only a content that cannot be spelled ends
the run. -/
theorem introduce_failure (g : Setting) (p : State) (c : Content)
    (h : 0 ≤ p.supply.ids.layout.entropy ∨ ∀ k ∈ g.kinds, k.supports c = false) :
    (introduce g p c).failure = (BuilderKind.limit? g.kinds c).map Failure.ofLimit := by
  by_cases hsupported : ∃ k ∈ g.kinds, k.supports c = true
  · obtain ⟨k, hk, hs, hfind⟩ := find_supporting hsupported
    have hdrawable : 0 ≤ p.supply.ids.layout.entropy := h.elim id fun hunsupported => by
      rw [hunsupported k hk] at hs
      cases hs
    rw [BuilderKind.limit?_of_supported (BuilderKind.supported_of_supports hk hs)]
    obtain ⟨-, hl, id, supply, htold⟩ | ⟨-, f, hfails, hlimit⟩ :=
      introduce_cases (p := p) hs hfind
    · rw [htold, hl]
      exact (emitBodies_tells _ _ _).1
    · rw [hfails, hlimit hdrawable]
  · have hunsupported := unsupported_of_not_exists hsupported
    rw [introduce_unsupported hunsupported, BuilderKind.limit?_of_unsupported hunsupported]
    rfl

theorem continues_of_closed {p : State} (h : p.account.Closed) (c : Content) :
    continues p c = none := by
  unfold continues
  cases hb : p.builder with
  | none => rfl
  | some b => simp [h b hb]

theorem continues_of_open {p : State} {index : Int} {id : String} {chunks : List String}
    (h : p.builder = some (openText index id chunks)) (c : Content) :
    continues p c =
      if BuilderKind.text.supports c then some (openText index id chunks) else none := by
  simp [continues, h, openText, Option.filter_some]

theorem content_of_continues {g : Setting} {p : State} {c : Content} {b : ItemBuilder}
    (hc : ∀ details, c.body ≠ .usage details) (h : continues p c = some b) :
    content g p c = tell p b c := by
  unfold content
  split
  · exact absurd ‹_› (hc _)
  · simp only [h]

theorem content_of_not_continues {g : Setting} {p : State} {c : Content}
    (hc : ∀ details, c.body ≠ .usage details) (h : continues p c = none) :
    content g p c = (close p).andThen fun q => introduce g q c := by
  unfold content
  split
  · exact absurd ‹_› (hc _)
  · simp only [h]
    rfl

/-- Closing what is open and opening an item is what a beat can do. -/
theorem opened_tells {kinds : List BuilderKind} {l : Layout} {a : Account} {c : Content}
    {k : BuilderKind} (id : String) (hdrawable : 0 ≤ l.entropy) (hk : k ∈ kinds)
    (hs : k.supports c = true) (hclosed : ∀ s, c.body = .text s → a.Closed) :
    Tells kinds l a (.content c) (a.closing ++ ItemBuilder.opening k a.nextIndex id c)
      ⟨some ((ItemBuilder.opening k a.nextIndex id c).foldl ItemBuilder.after
          ⟨k, a.nextIndex, k != .text, some id, []⟩),
        a.closed.output ++ finished (ItemBuilder.opening k a.nextIndex id c), a.usage,
        a.nextIndex + 1⟩ := by
  by_cases htext : k = .text
  · subst htext
    obtain ⟨s, hc⟩ := BuilderKind.supports_text_iff.mp hs
    have ha := hclosed s hc
    show Tells _ _ _ _ _ ⟨some (List.foldl _ ⟨_, _, false, _, _⟩ _), _, _, _⟩
    rw [Account.closing_of_closed ha, Account.closed_of_closed ha, List.nil_append,
      foldl_after_text hc, finished_text hc, List.append_nil]
    exact .text a id hdrawable hk ha hc
  · have hcomplete : (k != .text) = true := by simpa using htext
    rw [foldl_after_whole hs htext]
    exact .whole a id hdrawable hk hs htext hcomplete

/-- A content that the open builder does not take, in a run that goes on. -/
theorem close_introduce_tells {g : Setting} {p : State} {c : Content}
    (hc : ∀ details, c.body ≠ .usage details) (hclosed : ∀ s, c.body = .text s → p.account.Closed)
    (h : ((close p).andThen fun q => introduce g q c).failure = none) :
    let t := (close p).andThen fun q => introduce g q c
    Tells g.kinds p.supply.ids.layout p.account (.content c) t.bodies t.state.account := by
  intro t
  obtain ⟨hends, hbodies, haccount⟩ := close_tells p
  have hids := (close_telling p).ids
  have htold : t.bodies = p.account.closing ++ (introduce g (close p).state c).bodies := by
    rw [← hbodies]
    exact Stretch.bodies_andThen _ hends
  have hstate : t.state = (introduce g (close p).state c).state := Stretch.state_andThen _ hends
  have hfail := (Stretch.failure_andThen_eq_none.mp h).2
  rw [htold, hstate]
  generalize (close p).state = q at *
  have hindex : q.nextIndex = p.account.nextIndex := congrArg Account.nextIndex haccount
  have houtput : q.output = p.account.closed.output := congrArg Account.output haccount
  have husage : q.usage = p.account.usage := congrArg Account.usage haccount
  by_cases hsupported : ∃ k ∈ g.kinds, k.supports c = true
  · obtain ⟨k, hk, hs, hdrawable, id, hopening, hafter⟩ := introduce_tells hsupported hfail
    rw [hids] at hdrawable
    rw [hopening, hafter, hindex, houtput, husage]
    exact opened_tells id hdrawable hk hs hclosed
  · have hunsupported := unsupported_of_not_exists hsupported
    rw [introduce_unsupported hunsupported, Stretch.bodies_quiet, Stretch.state_quiet,
      List.append_nil, haccount]
    exact .dropped p.account hc hunsupported

/-- What is done with a content: counts are added up, a text goes on in the open item, and
with any other content the open item is closed first. -/
theorem content_cases (g : Setting) {p : State} (c : Content) (hp : p.account.Resting) :
    (∃ details, c.body = .usage details ∧
        content g p c = .quiet { p with usage := Usage.combine p.usage details }) ∨
      (∃ index id chunks s, p.builder = some (openText index id chunks) ∧ c.body = .text s ∧
        content g p c =
          emitBodies p (openText index id chunks) (ItemBuilder.deltas index id s)) ∨
      ((∀ details, c.body ≠ .usage details) ∧ (∀ s, c.body = .text s → p.account.Closed) ∧
        content g p c = (close p).andThen fun q => introduce g q c) := by
  by_cases husage : ∃ details, c.body = .usage details
  · obtain ⟨details, hc⟩ := husage
    exact .inl ⟨details, hc, by simp only [content, hc]⟩
  have hc : ∀ details, c.body ≠ .usage details := fun details he => husage ⟨details, he⟩
  obtain hclosed | ⟨index, id, chunks, hb⟩ := hp
  · have hnot := continues_of_closed hclosed c
    exact .inr (.inr ⟨hc, fun _ _ => hclosed, content_of_not_continues hc hnot⟩)
  · have hcontinues := continues_of_open hb c
    by_cases hs : BuilderKind.text.supports c = true
    · obtain ⟨s, hbody⟩ := BuilderKind.supports_text_iff.mp hs
      rw [if_pos hs] at hcontinues
      refine .inr (.inl ⟨index, id, chunks, s, hb, hbody, ?_⟩)
      rw [content_of_continues hc hcontinues, tell_open p index id chunks hbody]
    · rw [if_neg hs] at hcontinues
      refine .inr (.inr ⟨hc, fun s hbody => ?_, content_of_not_continues hc hcontinues⟩)
      exact absurd (BuilderKind.supports_text_iff.mpr ⟨s, hbody⟩) hs

/-- A content that does not end the run is one of the things that a beat can do. -/
theorem content_tells (g : Setting) {p : State} (c : Content) (hp : p.account.Resting)
    (h : (content g p c).failure = none) :
    Tells g.kinds p.supply.ids.layout p.account (.content c) (content g p c).bodies
      (content g p c).state.account := by
  obtain ⟨details, hc, hcontent⟩ | ⟨index, id, chunks, s, hb, hc, hcontent⟩ |
    ⟨hc, hclosed, hcontent⟩ := content_cases g c hp
  · rw [hcontent]
    exact .usage p.account hc
  · obtain ⟨-, htold, hafter⟩ := emitBodies_tells p (openText index id chunks)
      (ItemBuilder.deltas index id s)
    rw [hcontent, htold, hafter, foldl_after_deltas, finished_deltas, List.append_nil]
    exact .delta p.account hb hc
  · rw [hcontent] at h ⊢
    exact close_introduce_tells hc hclosed h

theorem content_failure (g : Setting) {p : State} (c : Content) (hp : p.account.Resting)
    (h : 0 ≤ p.supply.ids.layout.entropy ∨ ∀ k ∈ g.kinds, k.supports c = false) :
    (content g p c).failure = (BuilderKind.limit? g.kinds c).map Failure.ofLimit := by
  obtain ⟨_, hc, hcontent⟩ | ⟨_, _, _, _, _, hc, hcontent⟩ | ⟨_, _, hcontent⟩ :=
    content_cases g c hp
  · rw [hcontent, BuilderKind.limit?_of_usage hc]
    rfl
  · rw [hcontent, BuilderKind.limit?_of_text hc]
    exact (emitBodies_tells _ _ _).1
  · rw [hcontent, Stretch.andThen_of_ends _ (close_tells p).1]
    exact introduce_failure g (close p).state c (by rwa [(close_telling p).ids])

/-! ### Contents one after the other -/

/-- What a stretch tells from an account on, however it ends: a tale. Where it ends well the
tale is that of the given beats, and it arrives at the account of the last state. -/
def Stretch.Told (kinds : List BuilderKind) (l : Layout) (a : Account) (bs : List Beat)
    (s : Stretch) : Prop :=
  ∃ told a', Tale kinds l a told s.bodies a' ∧
    (s.failure = none → told = bs ∧ s.state.account = a')

namespace Stretch.Told
variable {kinds : List BuilderKind} {l : Layout} {a : Account} {bs more : List Beat} {s : Stretch}

theorem quiet (p : State) : Told kinds l p.account [] (.quiet p) :=
  ⟨[], p.account, .nil p.account, fun _ => ⟨rfl, rfl⟩⟩

theorem failed (a : Account) (bs : List Beat) (p : State) (f : Failure) :
    Told kinds l a bs (.failed p f) :=
  ⟨[], a, .nil a, fun h => by cases h⟩

theorem tale (h : Told kinds l a bs s) (hs : s.failure = none) :
    Tale kinds l a bs s.bodies s.state.account := by
  obtain ⟨told, a', htale, hends⟩ := h
  obtain ⟨rfl, rfl⟩ := hends hs
  exact htale

theorem of_tale {told : List Event.Body} {a' : Account} (h : Tale kinds l a bs told a')
    (hbodies : s.bodies = told) (hstate : s.state.account = a') : Told kinds l a bs s :=
  ⟨bs, a', hbodies ▸ h, fun _ => ⟨rfl, hstate⟩⟩

theorem andThen {next : State → Stretch} (h : Told kinds l a bs s)
    (hnext : s.failure = none → Told kinds l s.state.account more (next s.state)) :
    Told kinds l a (bs ++ more) (s.andThen next) := by
  cases hs : s.failure with
  | some f =>
    obtain ⟨told, a', htale, -⟩ := h
    rw [andThen_of_fails next hs]
    exact ⟨told, a', htale, fun hnone => by rw [hs] at hnone; cases hnone⟩
  | none =>
    obtain ⟨told, a', htale, hends⟩ := hnext hs
    refine ⟨bs ++ told, a', ?_, fun hnone => ?_⟩
    · rw [bodies_andThen next hs]
      exact (h.tale hs).append htale
    · obtain ⟨rfl, hstate⟩ := hends (failure_andThen_eq_none.mp hnone).2
      exact ⟨rfl, by rw [state_andThen next hs, hstate]⟩

end Stretch.Told

/-- A new builder that ends the run tells nothing. -/
theorem introduce_fails {g : Setting} {p : State} {c : Content}
    (h : (introduce g p c).failure ≠ none) : (introduce g p c).bodies = [] := by
  by_cases hsupported : ∃ k ∈ g.kinds, k.supports c = true
  · obtain ⟨k, -, hs, hfind⟩ := find_supporting hsupported
    obtain ⟨-, -, id, supply, htold⟩ | ⟨hsilent, -⟩ := introduce_cases (p := p) hs hfind
    · rw [htold] at h
      exact absurd (emitBodies_tells _ _ _).1 h
    · exact hsilent
  · rw [introduce_unsupported (unsupported_of_not_exists hsupported)]
    rfl

/-- A content that ends the run has closed what was open, and tells nothing more. -/
theorem content_told (g : Setting) {p : State} (c : Content) (hp : p.account.Resting) :
    Stretch.Told g.kinds p.supply.ids.layout p.account [.content c] (content g p c) := by
  by_cases h : (content g p c).failure = none
  · exact .of_tale (.single (content_tells g c hp h)) rfl rfl
  · obtain ⟨_, _, hcontent⟩ | ⟨_, _, _, _, _, _, hcontent⟩ | ⟨_, _, hcontent⟩ :=
      content_cases g c hp
    · rw [hcontent] at h
      exact absurd rfl h
    · rw [hcontent] at h
      exact absurd (emitBodies_tells _ _ _).1 h
    · obtain ⟨hends, hbodies, haccount⟩ := close_tells p
      rw [hcontent] at h ⊢
      have hsilent : (introduce g (close p).state c).bodies = [] :=
        introduce_fails fun hnone => h (Stretch.failure_andThen_eq_none.mpr ⟨hends, hnone⟩)
      refine ⟨[.boundary], p.account.closed, ?_, fun hnone => absurd hnone h⟩
      rw [Stretch.bodies_andThen _ hends, hsilent, hbodies, List.append_nil]
      exact .single (.boundary p.account)

theorem contents_told (g : Setting) {p : State} (cs : List Content) (hp : p.account.Resting) :
    Stretch.Told g.kinds p.supply.ids.layout p.account (cs.map .content) (contents g p cs) := by
  induction cs generalizing p with
  | nil => exact .quiet p
  | cons c rest ih =>
    have hhead := content_told g c hp
    show Stretch.Told _ _ _ ([.content c] ++ rest.map .content) _
    refine hhead.andThen fun hends => ?_
    rw [← (content_telling g p c).ids]
    exact ih ((hhead.tale hends).resting hp)

/-- Where identifiers can be drawn, or none are needed, the first content that cannot be spelled ends
the run. -/
theorem contents_failure (g : Setting) {p : State} (cs : List Content) (hp : p.account.Resting)
    (h : 0 ≤ p.supply.ids.layout.entropy ∨ ∀ c ∈ cs, ∀ k ∈ g.kinds, k.supports c = false) :
    (contents g p cs).failure =
      (cs.findSome? (BuilderKind.limit? g.kinds)).map Failure.ofLimit := by
  induction cs generalizing p with
  | nil => rfl
  | cons c rest ih =>
    have hhead := content_failure g c hp (h.imp_right fun hu => hu c (List.mem_cons_self ..))
    rw [List.findSome?_cons, contents]
    cases hc : BuilderKind.limit? g.kinds c with
    | some l =>
      rw [hc] at hhead
      rw [Stretch.andThen_of_fails _ hhead]
      exact hhead
    | none =>
      rw [hc] at hhead
      rw [Stretch.andThen_of_ends _ hhead]
      refine ih ((content_tells g c hp hhead).resting hp) ?_
      rw [(content_telling g p c).ids]
      exact h.imp_right fun hu c' hc' => hu c' (List.mem_cons_of_mem c hc')

end AgentGateway.Projection
