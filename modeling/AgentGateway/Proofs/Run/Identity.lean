import AgentGateway.Proofs.Run.Chapters

/-! The identity of a message.

Of the updates of one chapter no two say different things of a field, or a message would have
begun between them (`chapter_agrees`). What they say is the message's own only as far as the
first of them says it: a message is given its identity when it is opened, and what a later
update says of a field that was left open is not put in (`Run.identities_given`). -/
namespace AgentGateway
open Identity (Field)

/-- The identity that a message has. -/
def Message.identity (m : Message) : Identity := ⟨m.author, m.id, some m.role⟩

/-! ### One identity to a chapter -/

/-- What the last chapter says is carried on. -/
theorem saidBy_carried_of_mem {us : List Update} {u : Update}
    (hu : u ∈ chapter us (lastChapter us)) {f : Field} {v : String}
    (hv : u.identity.said f = some v) : saidBy (carried none us) f = some v := by
  induction us using List.reverseRecOn generalizing u v with
  | nil => cases hu
  | append_singleton us last ih =>
    rw [carried_concat, saidBy_carry]
    by_cases hne : us = []
    · subst hne
      rw [chapter_concat, if_pos rfl] at hu
      obtain rfl : u = last := by simpa [chapter] using hu
      rw [hv, Option.some_or]
    cases hnew : Update.isNewMessage (some last) (carried none us) with
    | true =>
      obtain ⟨hlast, hchapter⟩ := chapters_of_boundary last hne hnew
      rw [hlast, hchapter, List.mem_singleton] at hu
      rw [← hu, hv, Option.some_or]
    | false =>
      obtain ⟨hlast, hchapter⟩ := chapters_of_no_boundary last hne hnew
      rw [hlast, hchapter, List.mem_append, List.mem_singleton] at hu
      obtain hu | rfl := hu
      · have hbefore := ih hu hv
        cases hsaid : last.identity.said f with
        | none => rwa [Option.none_or]
        | some w =>
          -- Otherwise the update would have begun a message.
          have hsame : w = v := by
            by_contra hdiffers
            have := (isNewMessage_iff last _).mpr ⟨f, w, v, hsaid, hbefore, Ne.symm hdiffers⟩
            rw [hnew] at this
            cases this
          rw [hsame, Option.some_or]
      · rw [hv, Option.some_or]

/-- What two updates of one chapter say of a field is the same. -/
theorem chapter_agrees {us : List Update} {n : Nat} {u u' : Update} (hu : u ∈ chapter us n)
    (hu' : u' ∈ chapter us n) {f : Field} {v w : String} (hv : u.identity.said f = some v)
    (hw : u'.identity.said f = some w) : v = w := by
  induction us using List.reverseRecOn with
  | nil => cases hu
  | append_singleton us last ih =>
    by_cases hn : n = lastChapter (us ++ [last])
    · subst hn
      have hsame := (saidBy_carried_of_mem hu hv).symm.trans (saidBy_carried_of_mem hu' hw)
      exact Option.some.inj hsame
    · rw [chapter_concat, if_neg (Ne.symm hn), List.append_nil] at hu hu'
      exact ih hu hu'

/-! ### The identity of its message -/

/-- What a message says of a field where no update says anything: it is the assistant's. -/
def Identity.assumed : Field → Option String
  | .role => some Role.assistant.name
  | .author | .message => Option.none

/-- A message says what the first update of its chapter says. -/
theorem Message.said_ofChapter (first : Update) (rest : List Update) (f : Field) :
    (ofChapter (first :: rest)).identity.said f =
      (first.identity.said f).or (Identity.assumed f) := by
  cases f with
  | author | message => exact (Option.or_none ..).symm
  | role =>
    rw [Identity.said_role, Identity.said_role]
    show some (first.identity.role.getD .assistant).name = _
    cases first.identity.role <;> rfl

namespace Run

/-- **A message has the identity of its first update.** The messages are those of the chapters. Each
has the author, the identifier and the role of its chapter's first update, an assistant's where
that one names none. All updates of a chapter that say something of a field say the same, and the
message says it too exactly if the first update does, or if it is what is assumed anyway: what
only a later update says is lost. -/
theorem identities_given (us : List Update) :
    (ofUpdates us).messages =
        ((List.range (lastChapter us + 1)).map fun n => Message.ofChapter (chapter us n)).filter
          (fun m => !m.contents.isEmpty) ∧
      ∀ n first rest, chapter us n = first :: rest →
        let m := Message.ofChapter (chapter us n)
        m.author = first.identity.author ∧ m.id = first.identity.message ∧
          m.role = first.identity.role.getD .assistant ∧
          ∀ u ∈ chapter us n, ∀ f v, u.identity.said f = some v →
            (∀ u' ∈ chapter us n, ∀ w, u'.identity.said f = some w → w = v) ∧
            (m.identity.said f = some v ↔
              first.identity.said f ≠ none ∨ Identity.assumed f = some v) := by
  refine ⟨messages_ofUpdates us, fun n first rest hchapter => ?_⟩
  intro m
  have hm : m = .ofChapter (first :: rest) := congrArg Message.ofChapter hchapter
  refine ⟨by rw [hm]; rfl, by rw [hm]; rfl, by rw [hm]; rfl, fun u hu f v hv => ⟨?_, ?_⟩⟩
  · exact fun u' hu' w hw => chapter_agrees hu' hu hw hv
  · rw [hm, Message.said_ofChapter]
    cases hfirst : first.identity.said f with
    | none => simp
    | some w =>
      have hw : w = v := chapter_agrees (hchapter ▸ List.mem_cons_self) hu hfirst hv
      simp [hw]

/-- An update that says nothing but a text, and one that goes on with it as a tool of some name: the
message they make is the assistant's and has no author. -/
theorem late_identity_lost :
    let first : Update := ⟨.none, [.ofText "a"]⟩
    let late : Update := ⟨⟨some "A", none, some .tool⟩, [.ofText "b"]⟩
    (ofUpdates [first, late]).messages = [⟨.assistant, [.ofText "ab"], none, none⟩] ∧
      late ∈ chapter [first, late] 0 ∧ late.identity.said .author = some "A" ∧
      late.identity.said .role = some "tool" ∧
      (Message.ofChapter (chapter [first, late] 0)).identity.said .author ≠ some "A" ∧
      (Message.ofChapter (chapter [first, late] 0)).identity.said .role ≠ some "tool" := by
  intro first late
  obtain ⟨hmessages, hchapters⟩ := identities_given [first, late]
  obtain ⟨-, -, -, hsaid⟩ := hchapters 0 first [late] rfl
  have hlate : late ∈ chapter [first, late] 0 := List.mem_cons_of_mem _ List.mem_cons_self
  refine ⟨hmessages, hlate, rfl, rfl, ?_, ?_⟩
  · intro h
    obtain hfirst | hassumed := (hsaid late hlate .author "A" rfl).2.mp h
    · exact hfirst rfl
    · cases hassumed
  · intro h
    obtain hfirst | hassumed := (hsaid late hlate .role "tool" rfl).2.mp h
    · exact hfirst rfl
    · exact absurd hassumed (by decide)

end Run
end AgentGateway
