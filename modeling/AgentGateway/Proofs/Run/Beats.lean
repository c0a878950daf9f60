import AgentGateway.Run

/-! What a stream of updates says, beat by beat.

What updates say comes down to *beats*: the contents in order, and the boundaries where
another message begins. `walk_gather`: gathering updates into messages is walking their
beats, where a walk has the contents of the messages that are over, those of the current
one, and the token counts. -/
namespace AgentGateway

/-! ### Token counts among contents -/

def Content.isUsage (c : Content) : Bool :=
  match c.body with
  | .usage _ => true
  | _ => false

theorem Content.isUsage_iff {c : Content} : c.isUsage = true ↔ ∃ details, c.body = .usage details := by
  obtain ⟨properties, body⟩ := c
  cases body <;> simp [isUsage]

/-- The token counts that a content brings. -/
def Content.counts (c : Content) : Option Usage :=
  match c.body with
  | .usage details => details
  | _ => none

theorem Content.counts_of_not_usage {c : Content} (hc : ∀ details, c.body ≠ .usage details) :
    c.counts = none := by
  unfold counts
  split
  · exact absurd ‹_› (hc _)
  · rfl

/-- The token counts of some contents, added to those so far. -/
def Usage.after (total : Option Usage) (cs : List Content) : Option Usage :=
  cs.foldl (fun total c => combine total c.counts) total

theorem Usage.after_eq_foldl (total : Option Usage) (cs : List Content) :
    after total cs = ((cs.filterMap Content.counts).map some).foldl combine total := by
  induction cs generalizing total with
  | nil => rfl
  | cons c rest ih =>
    have hhead : after total (c :: rest) = after (combine total c.counts) rest := rfl
    rw [hhead, ih]
    cases hc : c.counts with
    | none => rw [List.filterMap_cons_none hc, combine_none_right]
    | some u => rw [List.filterMap_cons_some hc, List.map_cons, List.foldl_cons]

/-! ### Beats -/

inductive Beat where
  | boundary
  | content (c : Content)
deriving DecidableEq, Repr

/-- The beats of some updates that come after another one. -/
def beats (previous : Option Update) : List Update → List Beat
  | [] => []
  | u :: rest =>
    (if Update.isNewMessage (some u) previous then [.boundary] else []) ++
      u.contents.map .content ++ beats (some (u.carry previous)) rest

def Beat.content? : Beat → Option Content
  | .boundary => none
  | .content c => some c

theorem contents_beats (previous : Option Update) (us : List Update) :
    (beats previous us).filterMap Beat.content? = us.flatMap Update.contents := by
  induction us generalizing previous with
  | nil => rfl
  | cons u rest ih =>
    have hboundary : (if Update.isNewMessage (some u) previous then [Beat.boundary] else []).filterMap
        Beat.content? = [] := by
      split <;> rfl
    have hcontents : (u.contents.map Beat.content).filterMap Beat.content? = u.contents := by
      rw [List.filterMap_map]
      exact List.filterMap_some
    rw [beats, List.filterMap_append, List.filterMap_append, hboundary, hcontents, ih,
      List.nil_append, List.flatMap_cons]

namespace Run

/-! ### A content after others -/

def EndsInText (contents : List Content) : Prop :=
  ∃ init properties s, contents = init ++ [⟨properties, .text s⟩]

theorem append_text {properties : Option Fields} {c : Content} {s : String} (init : List Content)
    (before : String) (hc : c.body = .text s) :
    append (init ++ [⟨properties, .text before⟩]) c =
      init ++ [⟨properties, .text (before ++ s)⟩] := by
  simp only [append, List.getLast?_concat, hc, List.dropLast_concat]

theorem append_of_not_text {contents : List Content} {c : Content} (hc : ∀ s, c.body ≠ .text s) :
    append contents c = contents ++ [c] := by
  unfold append
  split
  · exact absurd ‹_› (hc _)
  · rfl

theorem append_of_not_endsInText {contents : List Content} (c : Content)
    (h : ¬EndsInText contents) : append contents c = contents ++ [c] := by
  unfold append
  split
  · rename_i properties before s hlast hc
    obtain ⟨init, hinit⟩ := List.getLast?_eq_some_iff.mp hlast
    exact absurd ⟨init, properties, before, hinit⟩ h
  · rfl

/-- A text joins a text before it; any other content comes after those before it. -/
theorem append_cases (contents : List Content) (c : Content) :
    (∃ init properties before s, contents = init ++ [⟨properties, .text before⟩] ∧
        c.body = .text s ∧ append contents c = init ++ [⟨properties, .text (before ++ s)⟩]) ∨
      append contents c = contents ++ [c] := by
  by_cases hends : EndsInText contents
  · obtain ⟨init, properties, before, rfl⟩ := hends
    by_cases htext : ∃ s, c.body = .text s
    · obtain ⟨s, hs⟩ := htext
      exact .inl ⟨init, properties, before, s, rfl, hs, append_text init before hs⟩
    · exact .inr (append_of_not_text fun s hs => htext ⟨s, hs⟩)
  · exact .inr (append_of_not_endsInText c hends)

theorem not_endsInText_nil : ¬EndsInText [] := by
  rintro ⟨init, properties, s, h⟩
  exact absurd h.symm (List.append_ne_nil_of_right_ne_nil _ (List.cons_ne_nil _ _))

theorem not_endsInText_append {contents : List Content} {c : Content}
    (hc : ∀ s, c.body ≠ .text s) : ¬EndsInText (append contents c) := by
  rintro ⟨init, properties, s, h⟩
  rw [append_of_not_text hc] at h
  obtain ⟨-, hlast⟩ := List.append_inj' h rfl
  rw [List.singleton_inj] at hlast
  exact hc s (congrArg Content.body hlast)

/-! ### Walking beats -/

structure Walk where
  before : List Content
  current : List Content
  usage : Option Usage

namespace Walk

def empty : Walk := ⟨[], [], none⟩

def step (w : Walk) : Beat → Walk
  | .boundary => { w with before := w.before ++ w.current, current := [] }
  | .content c =>
    match c.body with
    | .usage details => { w with usage := Usage.combine w.usage details }
    | _ => { w with current := append w.current c }

/-- All contents so far. -/
def contents (w : Walk) : List Content := w.before ++ w.current

theorem step_usage (w : Walk) {c : Content} {details : Option Usage} (hc : c.body = .usage details) :
    w.step (.content c) = { w with usage := Usage.combine w.usage details } := by
  simp only [step, hc]

theorem step_content (w : Walk) {c : Content} (hc : ∀ details, c.body ≠ .usage details) :
    w.step (.content c) = { w with current := append w.current c } := by
  simp only [step]

end Walk

namespace Gathering

/-- Where gathering has come to, without what it knows of the messages besides. -/
def walk (g : Gathering) : Walk :=
  ⟨g.finished.flatMap Message.contents, (g.current.map Message.contents).getD [], g.usage⟩

theorem walk_take (before : List Content) (m : Message) (usage : Option Usage) (cs : List Content) :
    (⟨before, (take m usage cs).1.contents, (take m usage cs).2⟩ : Walk) =
      (cs.map Beat.content).foldl Walk.step ⟨before, m.contents, usage⟩ := by
  induction cs generalizing m usage with
  | nil => rfl
  | cons c rest ih =>
    by_cases husage : ∃ details, c.body = .usage details
    · obtain ⟨details, hc⟩ := husage
      simp only [take, hc, List.map_cons, List.foldl_cons, Walk.step_usage _ hc]
      exact ih m (Usage.combine usage details)
    · have hc : ∀ details, c.body ≠ .usage details := fun details he => husage ⟨details, he⟩
      have htake : take m usage (c :: rest) =
          take { m with contents := append m.contents c } usage rest := by
        simp only [take]
      rw [htake, List.map_cons, List.foldl_cons, Walk.step_content _ hc]
      exact ih { m with contents := append m.contents c } usage

/-- Before the first update there is no current message and no identity. -/
theorem walk_step {g : Gathering} (u : Update) (h : g.current = none → g.previous = none) :
    (g.step u).walk =
      ((if Update.isNewMessage (some u) g.previous then [Beat.boundary] else []) ++
        u.contents.map Beat.content).foldl Walk.step g.walk := by
  rw [List.foldl_append]
  cases hcurrent : g.current with
  | none =>
    have hopen := walk_take (g.finished.flatMap Message.contents) (opened u) g.usage u.contents
    simp only [h hcurrent, Update.isNewMessage, step, walk, hcurrent, Bool.false_eq_true, if_false]
    exact hopen
  | some m =>
    by_cases hnew : Update.isNewMessage (some u) g.previous = true
    · have hopen := walk_take ((g.finished ++ [m]).flatMap Message.contents) (opened u) g.usage
        u.contents
      simp only [step, walk, hcurrent, hnew, if_true]
      rw [List.flatMap_append] at hopen ⊢
      simpa [Walk.step, opened] using hopen
    · have hon := walk_take (g.finished.flatMap Message.contents) m g.usage u.contents
      simp only [step, walk, hcurrent, hnew]
      exact hon

theorem walk_steps {g : Gathering} (us : List Update) (h : g.current = none → g.previous = none) :
    (us.foldl step g).walk = (beats g.previous us).foldl Walk.step g.walk := by
  induction us generalizing g with
  | nil => rfl
  | cons u rest ih =>
    have hrest := ih (g := g.step u) fun hnone => by cases hnone
    rw [List.foldl_cons, hrest, walk_step u h, beats, ← List.foldl_append]
    rfl

end Gathering

/-- **Gathering updates** is walking their beats. -/
theorem walk_gather (us : List Update) :
    (gather us).walk = (beats none us).foldl Walk.step .empty :=
  Gathering.walk_steps us fun _ => rfl

theorem contents_ofUpdates (us : List Update) :
    (ofUpdates us).messages.flatMap Message.contents = (gather us).walk.contents := by
  have hkept (ms : List Message) :
      (ms.filter fun m => !m.contents.isEmpty).flatMap Message.contents =
        ms.flatMap Message.contents := by
    induction ms with
    | nil => rfl
    | cons m rest ih => by_cases hm : m.contents = [] <;> simp [hm, ih]
  show (Gathering.messages (gather us)).flatMap Message.contents = _
  rw [Gathering.messages, hkept, List.flatMap_append]
  cases h : (gather us).current <;> simp [Walk.contents, Gathering.walk, h]

/-! ### What all contents have

A property that takes no notice of what a text says is one of all contents of a materialized
run exactly when it is one of all contents of its updates, token counts aside. -/

section
variable {Q : Content → Prop} (texts : ∀ p q s t, Q ⟨p, .text s⟩ → Q ⟨q, .text t⟩)
include texts

theorem forall_mem_append_iff (contents : List Content) (c : Content) :
    (∀ x ∈ append contents c, Q x) ↔ (∀ x ∈ contents, Q x) ∧ Q c := by
  obtain ⟨init, properties, before, s, rfl, hs, h⟩ | h := append_cases contents c
  · obtain ⟨p, body⟩ := c
    cases hs
    rw [h]
    simp only [List.forall_mem_append, List.forall_mem_singleton, and_assoc]
    refine and_congr_right fun _ => ⟨fun hQ => ⟨texts _ _ _ _ hQ, texts _ _ _ _ hQ⟩, fun hQ => ?_⟩
    exact texts _ _ _ _ hQ.1
  · rw [h]
    simp only [List.forall_mem_append, List.forall_mem_singleton]

theorem forall_mem_walk_iff (usages : ∀ p details, Q ⟨p, .usage details⟩) (bs : List Beat)
    (w : Walk) :
    (∀ x ∈ (bs.foldl Walk.step w).contents, Q x) ↔
      (∀ x ∈ w.contents, Q x) ∧ ∀ x ∈ bs.filterMap Beat.content?, Q x := by
  induction bs generalizing w with
  | nil => simp
  | cons beat rest ih =>
    rw [List.foldl_cons, ih]
    cases beat with
    | boundary => simp [Walk.step, Walk.contents, Beat.content?]
    | content c =>
      by_cases husage : ∃ details, c.body = .usage details
      · obtain ⟨details, hc⟩ := husage
        have hQ : Q c := by
          obtain ⟨p, body⟩ := c
          cases hc
          exact usages p details
        simp [Walk.step_usage w hc, Walk.contents, Beat.content?, hQ]
      · rw [Walk.step_content w fun details he => husage ⟨details, he⟩]
        simp only [Walk.contents, List.forall_mem_append, forall_mem_append_iff texts,
          List.filterMap_cons, Beat.content?, List.forall_mem_cons, and_assoc]

theorem forall_mem_ofUpdates_iff (usages : ∀ p details, Q ⟨p, .usage details⟩) (us : List Update) :
    (∀ x ∈ (ofUpdates us).messages.flatMap Message.contents, Q x) ↔
      ∀ x ∈ us.flatMap Update.contents, Q x := by
  rw [contents_ofUpdates, walk_gather, forall_mem_walk_iff texts usages, contents_beats]
  simp [Walk.empty, Walk.contents]

end

/-! ### What is found first

What is found in no text and in no token counts is found first at the same content of a
materialized run and of its updates. -/

section
variable {α : Type} {find : Content → Option α} (texts : ∀ p s, find ⟨p, .text s⟩ = none)
include texts

theorem findSome?_append (contents : List Content) (c : Content) :
    (append contents c).findSome? find = (contents.findSome? find).or (find c) := by
  obtain ⟨init, properties, before, s, rfl, hs, h⟩ | h := append_cases contents c
  · obtain ⟨p, body⟩ := c
    cases hs
    rw [h]
    simp [texts]
  · rw [h]
    simp

theorem findSome?_walk (usages : ∀ p details, find ⟨p, .usage details⟩ = none) (bs : List Beat)
    (w : Walk) : (bs.foldl Walk.step w).contents.findSome? find =
      (w.contents.findSome? find).or ((bs.filterMap Beat.content?).findSome? find) := by
  induction bs generalizing w with
  | nil => simp
  | cons beat rest ih =>
    rw [List.foldl_cons, ih]
    cases beat with
    | boundary =>
      rw [List.filterMap_cons_none rfl]
      simp [Walk.step, Walk.contents]
    | content c =>
      have hcons (cs : List Content) :
          (c :: cs).findSome? find = (find c).or (cs.findSome? find) := by
        rw [List.findSome?_cons]
        cases find c <;> rfl
      show _ = (w.contents.findSome? find).or
        ((c :: rest.filterMap Beat.content?).findSome? find)
      rw [hcons]
      by_cases husage : ∃ details, c.body = .usage details
      · obtain ⟨details, hc⟩ := husage
        have hnone : find c = none := by
          obtain ⟨p, body⟩ := c
          cases hc
          exact usages p details
        simp [Walk.step_usage w hc, Walk.contents, hnone]
      · rw [Walk.step_content w fun details he => husage ⟨details, he⟩]
        simp only [Walk.contents, List.findSome?_append, findSome?_append texts, Option.or_assoc]

theorem findSome?_ofUpdates (usages : ∀ p details, find ⟨p, .usage details⟩ = none)
    (us : List Update) : ((ofUpdates us).messages.flatMap Message.contents).findSome? find =
      (us.flatMap Update.contents).findSome? find := by
  rw [contents_ofUpdates, walk_gather, findSome?_walk texts usages, contents_beats]
  rfl

end

end Run
end AgentGateway
