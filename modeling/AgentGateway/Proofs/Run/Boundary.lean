import AgentGateway.Proofs.Run.Beats

/-! Where messages begin.

The fields of an identity are read alike: a field says something if it is there and not
empty (`Identity.said`). Updates are compared with what is carried on of those before them, and of
a field that is what was said last (`saidBy_carried`). So an update begins a message when a
field says something other than it said last, however many updates have been silent since
(`boundary_iff`), and updates that say nothing can stand anywhere. -/
namespace AgentGateway

/-! ### What a field says -/

inductive Identity.Field where
  | author
  | message
  | role

namespace Identity

/-- A field, as it is written. -/
def field (i : Identity) : Field → Option String
  | .author => i.author
  | .message => i.message
  | .role => i.role.map Role.name

/-- What a field says, if it is set. -/
def said (i : Identity) (f : Field) : Option String := set (i.field f)

/-- Whether some field is set. -/
def names (i : Identity) : Bool :=
  (i.said .author).isSome || (i.said .message).isSome || (i.said .role).isSome

theorem names_eq_false_iff {i : Identity} : i.names = false ↔ ∀ f, i.said f = Option.none := by
  simp only [names, Bool.or_eq_false_iff, Option.isSome_eq_false_iff, Option.isNone_iff_eq_none]
  refine ⟨fun ⟨⟨hauthor, hmessage⟩, hrole⟩ f => ?_, fun h => ⟨⟨h _, h _⟩, h _⟩⟩
  cases f <;> assumption

theorem set_eq_some {s : Option String} {v : String} (h : set s = some v) : s = some v :=
  (Option.filter_eq_some_iff.mp h).1

theorem said_role (i : Identity) : i.said .role = i.role.map Role.name := by
  obtain ⟨author, message, role⟩ := i
  cases role with
  | none => rfl
  | some r =>
    show set (some r.name) = some r.name
    cases r <;> decide

theorem said_or_field (i : Identity) (f : Field) : (i.said f).or (i.field f) = i.field f := by
  cases h : i.said f with
  | none => rfl
  | some v => exact (set_eq_some h).symm

theorem carryText_eq (now before : Option String) : carryText now before = (set now).or before := by
  unfold carryText
  cases h : set now with
  | none => rfl
  | some v => exact set_eq_some h

theorem set_or_set (now before : Option String) :
    set ((set now).or before) = (set now).or (set before) := by
  cases h : set now with
  | none => rfl
  | some v =>
    obtain rfl := set_eq_some h
    exact h

theorem field_carry (now before : Identity) (f : Field) :
    (now.carry before).field f = (now.said f).or (before.field f) := by
  cases f with
  | author => exact carryText_eq now.author before.author
  | message => exact carryText_eq now.message before.message
  | role =>
    rw [said_role]
    obtain ⟨author, message, role⟩ := now
    cases role <;> rfl

theorem said_carry (now before : Identity) (f : Field) :
    (now.carry before).said f = (now.said f).or (before.said f) := by
  rw [said, field_carry]
  exact set_or_set (now.field f) (before.field f)

theorem differs_iff {α : Type} [DecidableEq α] {a b : Option α} :
    differs a b = true ↔ ∃ v w, a = some v ∧ b = some w ∧ w ≠ v := by
  cases a with
  | none => simp [differs]
  | some v =>
    cases b with
    | none => simp [differs]
    | some w =>
      simp only [differs, bne_iff_ne]
      refine ⟨fun h => ⟨v, w, rfl, rfl, h.symm⟩, ?_⟩
      rintro ⟨_, _, ⟨⟩, ⟨⟩, h⟩
      exact h.symm

/-- Two roles have two names. -/
theorem differs_role (now before : Identity) :
    differs now.role before.role = differs (now.said .role) (before.said .role) := by
  rw [said_role, said_role]
  obtain ⟨_, _, role⟩ := now
  obtain ⟨_, _, role'⟩ := before
  cases role with
  | none => rfl
  | some r =>
    cases role' with
    | none => rfl
    | some r' => cases r <;> cases r' <;> rfl

/-- An identity splits from another one where a field says one thing here and another there. -/
theorem splits_iff {now before : Identity} :
    now.splits before = true ↔
      ∃ f v w, now.said f = some v ∧ before.said f = some w ∧ w ≠ v := by
  have hfields : now.splits before = true ↔
      ∃ f, differs (now.said f) (before.said f) = true := by
    simp only [splits, differs_role, Bool.or_eq_true]
    refine ⟨fun h => ?_, fun ⟨f, h⟩ => ?_⟩
    · rcases h with (h | h) | h
      · exact ⟨.author, h⟩
      · exact ⟨.message, h⟩
      · exact ⟨.role, h⟩
    · cases f with
      | author => exact .inl (.inl h)
      | message => exact .inl (.inr h)
      | role => exact .inr h
  simp only [hfields, differs_iff]

end Identity

/-! ### What was said last -/

open Identity (Field)

/-- What a field says of an update, if there is one. -/
def saidBy (u : Option Update) (f : Field) : Option String := u.bind fun u => u.identity.said f

/-- What a field said last in some updates. -/
def latest (f : Field) (us : List Update) : Option String :=
  (us.filterMap fun u => u.identity.said f).getLast?

/-- What is carried on of some updates that come after another one. -/
def carried (previous : Option Update) (us : List Update) : Option Update :=
  us.foldl (fun p u => some (u.carry p)) previous

theorem latest_cons (f : Field) (u : Update) (rest : List Update) :
    latest f (u :: rest) = (latest f rest).or (u.identity.said f) := by
  unfold latest
  cases h : u.identity.said f with
  | none => simp only [List.filterMap_cons, h, Option.or_none]
  | some v =>
    simp only [List.filterMap_cons, h, List.getLast?_cons]
    cases (rest.filterMap fun u => u.identity.said f).getLast? <;> rfl

theorem saidBy_carry (u : Update) (previous : Option Update) (f : Field) :
    saidBy (some (u.carry previous)) f = (u.identity.said f).or (saidBy previous f) := by
  cases previous with
  | none => exact (Option.or_none ..).symm
  | some p => exact u.identity.said_carry p.identity f

/-- What is carried on says what was said last. -/
theorem saidBy_carried (previous : Option Update) (us : List Update) (f : Field) :
    saidBy (carried previous us) f = (latest f us).or (saidBy previous f) := by
  induction us generalizing previous with
  | nil => rfl
  | cons u rest ih =>
    have hrest : saidBy (carried previous (u :: rest)) f = _ := ih (some (u.carry previous))
    rw [hrest, saidBy_carry, latest_cons, Option.or_assoc]

theorem saidBy_carried_none (us : List Update) (f : Field) :
    saidBy (carried none us) f = latest f us :=
  (saidBy_carried none us f).trans (Option.or_none ..)

/-- A field that is carried on is what was said last, or else as the first update has it. -/
theorem field_carried (first : Update) (us : List Update) :
    ∃ last, carried (some first) us = some last ∧
      ∀ f, last.identity.field f = (latest f us).or (first.identity.field f) := by
  induction us generalizing first with
  | nil => exact ⟨first, rfl, fun f => rfl⟩
  | cons u rest ih =>
    obtain ⟨last, hlast, hfield⟩ := ih (u.carry (some first))
    refine ⟨last, hlast, fun f => ?_⟩
    have hcarry : (u.carry (some first)).identity.field f = _ :=
      u.identity.field_carry first.identity f
    rw [hfield, hcarry, latest_cons, Option.or_assoc]

/-- What is carried on of updates from the first one on. -/
theorem carried_cons (first : Update) (rest : List Update) :
    ∃ last, carried none (first :: rest) = some last ∧ ∀ f,
      last.identity.said f = latest f (first :: rest) ∧
        last.identity.field f = (latest f (first :: rest)).or (first.identity.field f) := by
  obtain ⟨last, hlast, hfield⟩ := field_carried first rest
  have hcarried : carried none (first :: rest) = some last := hlast
  refine ⟨last, hcarried, fun f => ⟨?_, ?_⟩⟩
  · have hsaid := saidBy_carried_none (first :: rest) f
    rwa [hcarried] at hsaid
  · rw [hfield, latest_cons, Option.or_assoc, first.identity.said_or_field]

theorem isNewMessage_iff (u : Update) (previous : Option Update) :
    Update.isNewMessage (some u) previous = true ↔
      ∃ f v w, u.identity.said f = some v ∧ saidBy previous f = some w ∧ w ≠ v := by
  cases previous with
  | none => simp [Update.isNewMessage, saidBy]
  | some p => exact Identity.splits_iff

/-! ### Boundaries -/

/-- Updates that come after another one, each with whether it begins a message. -/
def marks (previous : Option Update) : List Update → List (Update × Bool)
  | [] => []
  | u :: rest => (u, Update.isNewMessage (some u) previous) :: marks (some (u.carry previous)) rest

theorem getElem?_marks (previous : Option Update) (us : List Update) (k : Nat) :
    (marks previous us)[k]? =
      us[k]?.map fun u => (u, Update.isNewMessage (some u) (carried previous (us.take k))) := by
  induction us generalizing previous k with
  | nil => rfl
  | cons u rest ih =>
    cases k with
    | zero => rfl
    | succ k => exact ih (some (u.carry previous)) k

/-- An update that says nothing begins no message. -/
theorem mark_of_silent {previous : Option Update} {us : List Update} {m : Update × Bool}
    (hm : m ∈ marks previous us) (hsilent : ∀ f, m.1.identity.said f = none) : m.2 = false := by
  obtain ⟨k, hk⟩ := List.mem_iff_getElem?.mp hm
  rw [getElem?_marks] at hk
  obtain ⟨u, -, rfl⟩ := Option.map_eq_some_iff.mp hk
  refine Bool.eq_false_iff.mpr fun hnew => ?_
  obtain ⟨f, v, w, hv, -⟩ := (isNewMessage_iff _ _).mp hnew
  rw [hsilent f] at hv
  cases hv

/-- The beats of some updates are their contents, and a boundary wherever a message begins. -/
theorem beats_eq_marks (previous : Option Update) (us : List Update) :
    beats previous us = (marks previous us).flatMap fun m =>
      (if m.2 then [.boundary] else []) ++ m.1.contents.map .content := by
  induction us generalizing previous with
  | nil => rfl
  | cons u rest ih => rw [beats, ih, marks, List.flatMap_cons]

/-- Updates that say nothing leave the marks of the others as they are. -/
theorem marks_filter {previous previous' : Option Update}
    (h : ∀ f, saidBy previous f = saidBy previous' f) (us : List Update) :
    (marks previous us).filter (·.1.identity.names) =
      marks previous' (us.filter (·.identity.names)) := by
  induction us generalizing previous previous' with
  | nil => rfl
  | cons u rest ih =>
    cases hnames : u.identity.names with
    | true =>
      have hmark : Update.isNewMessage (some u) previous = Update.isNewMessage (some u) previous' := by
        rw [Bool.eq_iff_iff, isNewMessage_iff, isNewMessage_iff]
        simp only [h]
      have hcarry (f : Field) :
          saidBy (some (u.carry previous)) f = saidBy (some (u.carry previous')) f := by
        rw [saidBy_carry, saidBy_carry, h]
      simp only [marks, List.filter_cons, hnames, if_true, hmark, ih hcarry]
    | false =>
      have hcarry (f : Field) : saidBy (some (u.carry previous)) f = saidBy previous' f := by
        rw [saidBy_carry, Identity.names_eq_false_iff.mp hnames, Option.none_or, h]
      simp only [marks, List.filter_cons, hnames, Bool.false_eq_true, if_false, ih hcarry]

/-- **Where messages begin.** An update begins a message exactly if one of its fields says
something and said something else when it was last set, however long ago. What is carried on
after an update is, field by field, what was said last; a field that nobody has set is as the
first update has it. So the first update begins no message, nor does one that says nothing; and
updates that say nothing may be put in or left out anywhere, the others begin messages as
before. -/
theorem boundary_iff (us : List Update) :
    (∀ k u, us[k]? = some u →
        ((marks none us)[k]? = some (u, true) ↔ ∃ f v w, u.identity.said f = some v ∧
          latest f (us.take k) = some w ∧ w ≠ v) ∧
        ∃ last, carried none (us.take (k + 1)) = some last ∧ ∀ f,
          last.identity.said f = latest f (us.take (k + 1)) ∧
          last.identity.field f =
            (latest f (us.take (k + 1))).or (us.head?.bind fun u => u.identity.field f)) ∧
      (∀ u, us.head? = some u → (marks none us).head? = some (u, false)) ∧
      (∀ m ∈ marks none us, (∀ f, m.1.identity.said f = none) → m.2 = false) ∧
      ∀ vs : List Update, vs.filter (·.identity.names) = us.filter (·.identity.names) →
        (marks none vs).filter (·.1.identity.names) =
          (marks none us).filter (·.1.identity.names) := by
  refine ⟨fun k u hu => ⟨?_, ?_⟩, fun u hu => ?_, fun m => mark_of_silent, fun vs hvs => ?_⟩
  · rw [getElem?_marks, hu, Option.map_some, Option.some_inj, Prod.mk.injEq, isNewMessage_iff]
    simp only [true_and, saidBy_carried_none]
  · cases us with
    | nil => simp at hu
    | cons first rest => exact carried_cons first (rest.take k)
  · cases us with
    | nil => cases hu
    | cons first rest =>
      cases hu
      rfl
  · rw [marks_filter (fun _ => rfl) vs, marks_filter (fun _ => rfl) us, hvs]

/-- An empty text says nothing, and yet is carried on where the first update has it: what is
carried on of a field is not always what was said last. -/
theorem carried_empty_text :
    ¬∀ (us : List Update) (last : Update), carried none us = some last →
      ∀ f, last.identity.field f = latest f us := by
  intro h
  have hauthor := h [⟨⟨some "", none, none⟩, []⟩] _ rfl .author
  cases hauthor

/-- An author, an update that is silent but for an empty text, another author, and the same one
again with a first role. -/
theorem authors_change :
    let first : Update := ⟨⟨some "a", none, none⟩, [.ofText "One"]⟩
    let silent : Update := ⟨⟨some "", none, none⟩, []⟩
    let second : Update := ⟨⟨some "b", some "", none⟩, [.ofText "Two"]⟩
    let third : Update := ⟨⟨some "b", none, some .assistant⟩, []⟩
    let us := [first, silent, second, third]
    marks none us = [(first, false), (silent, false), (second, true), (third, false)] ∧
      (∃ f v w, second.identity.said f = some v ∧ latest f [first, silent] = some w ∧ w ≠ v) ∧
      (¬∃ f v w, third.identity.said f = some v ∧ latest f [first, silent, second] = some w ∧
        w ≠ v) ∧
      (marks none [silent, first, second, silent, third]).filter (·.1.identity.names) =
        (marks none us).filter (·.1.identity.names) := by
  intro first silent second third us
  obtain ⟨hmarks, -, -, hinsert⟩ := boundary_iff us
  have hall : marks none us = [(first, false), (silent, false), (second, true), (third, false)] :=
    by decide
  refine ⟨hall, ?_, ?_, hinsert [silent, first, second, silent, third] (by decide)⟩
  · exact (hmarks 2 second rfl).1.mp (by rw [hall]; rfl)
  · exact mt (hmarks 3 third rfl).1.mpr (by rw [hall]; decide)

end AgentGateway
