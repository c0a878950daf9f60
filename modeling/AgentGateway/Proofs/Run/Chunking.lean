import AgentGateway.Proofs.Run.Boundary

/-! Cutting updates into pieces, and what gathering makes of them.

An update may be cut in two, where the second half names the same identity or none, and a
text may be cut in two texts. `ofUpdates_cut_update` and `ofUpdates_cut_text`: gathering puts
either back together. What it knows of the update before matters by its identity only, so
two gatherings are *alike* when they differ in no more than the contents of that update. -/
namespace AgentGateway

/-! ### The identity of a second half -/

/-- A second half goes on with the identity of the first, by naming it again or by naming
nothing. -/
def Identity.GoesOn (now again : Identity) : Prop := again = now ∨ again = .none

namespace Identity

theorem carryText_carryText (now before : Option String) :
    carryText now (carryText now before) = carryText now before := by
  unfold carryText
  split <;> rfl

theorem carryText_self (now : Option String) : carryText now now = now := ite_self now

theorem carry_carry (now before : Identity) : now.carry (now.carry before) = now.carry before := by
  obtain ⟨author, message, role⟩ := now
  cases role <;> simp [carry, carryText_carryText]

theorem carry_self (now : Identity) : now.carry now = now := by
  obtain ⟨author, message, role⟩ := now
  cases role <;> simp [carry, carryText_self]

theorem none_carry (before : Identity) : none.carry before = before := rfl

/-- Nothing splits from the identity that it carries on. -/
theorem splits_carry (now before : Identity) : now.splits (now.carry before) = false := by
  refine Bool.eq_false_iff.mpr fun hsplits => ?_
  obtain ⟨f, v, w, hv, hw, hne⟩ := splits_iff.mp hsplits
  rw [said_carry, hv] at hw
  exact hne (Option.some.inj hw).symm

theorem none_splits (before : Identity) : none.splits before = false := rfl

theorem GoesOn.splits {now again : Identity} (h : GoesOn now again) (before : Identity) :
    again.splits (now.carry before) = false := by
  obtain rfl | rfl := h
  · exact splits_carry again before
  · exact none_splits _

theorem GoesOn.carry {now again : Identity} (h : GoesOn now again) (before : Identity) :
    again.carry (now.carry before) = now.carry before := by
  obtain rfl | rfl := h
  · exact carry_carry again before
  · exact none_carry _

end Identity

namespace Update

theorem isNewMessage_some (u : Update) (previous : Option Update) :
    isNewMessage (some u) previous = (previous.map identity).any u.identity.splits := by
  cases previous <;> rfl

/-- The identity that an update carries on, by the one before it. -/
theorem identity_carry (u : Update) (previous : Option Update) :
    (u.carry previous).identity =
      u.identity.carry ((previous.map identity).getD u.identity) := by
  cases previous with
  | none => exact (u.identity.carry_self).symm
  | some p => rfl

theorem isNewMessage_congr {u u' : Update} {p p' : Option Update} (hu : u.identity = u'.identity)
    (hp : p.map identity = p'.map identity) :
    isNewMessage (some u) p = isNewMessage (some u') p' := by
  rw [isNewMessage_some, isNewMessage_some, hu, hp]

theorem carry_congr {u u' : Update} {p p' : Option Update} (hu : u.identity = u'.identity)
    (hp : p.map identity = p'.map identity) :
    (u.carry p).identity = (u'.carry p').identity := by
  rw [identity_carry, identity_carry, hu, hp]

variable {now again : Identity} (h : Identity.GoesOn now again) (cs ds : List Content)
  (previous : Option Update)
include h

/-- A second half starts no message. -/
theorem not_isNewMessage_goesOn :
    isNewMessage (some ⟨again, ds⟩) (some (carry ⟨now, cs⟩ previous)) = false := by
  show again.splits (carry ⟨now, cs⟩ previous).identity = false
  rw [identity_carry]
  exact h.splits _

/-- A second half carries on what the first does. -/
theorem identity_carry_goesOn :
    (carry ⟨again, ds⟩ (some (carry ⟨now, cs⟩ previous))).identity =
      (carry ⟨now, cs ++ ds⟩ previous).identity := by
  show again.carry (carry ⟨now, cs⟩ previous).identity = _
  rw [identity_carry, identity_carry]
  exact h.carry _

end Update

namespace Run

/-- A text and a text after it are as one text after what stands before them. -/
theorem append_cut_text (contents : List Content) (properties : Option Fields) (s t : String) :
    append (append contents ⟨properties, .text s⟩) ⟨properties, .text t⟩ =
      append contents ⟨properties, .text (s ++ t)⟩ := by
  by_cases hends : EndsInText contents
  · obtain ⟨init, p, before, rfl⟩ := hends
    rw [append_text init before rfl, append_text init _ rfl, append_text init before rfl,
      String.append_assoc]
  · rw [append_of_not_endsInText _ hends, append_of_not_endsInText _ hends,
      append_text contents s rfl]

namespace Gathering

theorem take_append (m : Message) (usage : Option Usage) (cs ds : List Content) :
    take m usage (cs ++ ds) = take (take m usage cs).1 (take m usage cs).2 ds := by
  induction cs generalizing m usage with
  | nil => rfl
  | cons c rest ih =>
    simp only [List.cons_append, take]
    split <;> exact ih _ _

theorem take_cut_text (m : Message) (usage : Option Usage) (properties : Option Fields)
    (s t : String) (cs ds : List Content) :
    take m usage (cs ++ ⟨properties, .text s⟩ :: ⟨properties, .text t⟩ :: ds) =
      take m usage (cs ++ ⟨properties, .text (s ++ t)⟩ :: ds) := by
  rw [take_append, take_append]
  simp only [take, append_cut_text]

/-- Gatherings that differ in no more than the contents of the update before. -/
structure Alike (g g' : Gathering) : Prop where
  finished : g.finished = g'.finished
  current : g.current = g'.current
  usage : g.usage = g'.usage
  previous : g.previous.map Update.identity = g'.previous.map Update.identity

theorem Alike.refl (g : Gathering) : Alike g g := ⟨rfl, rfl, rfl, rfl⟩

/-- What is gathered of an update depends on its identity and on what its contents add. -/
theorem Alike.step {g g' : Gathering} (h : Alike g g') {u u' : Update}
    (hidentity : u.identity = u'.identity)
    (htake : ∀ m usage, take m usage u.contents = take m usage u'.contents) :
    Alike (g.step u) (g'.step u') := by
  have hopened : opened u = opened u' := by simp only [opened, hidentity]
  have hnew : Update.isNewMessage (some u) g.previous = Update.isNewMessage (some u') g'.previous :=
    Update.isNewMessage_congr hidentity h.previous
  refine ⟨?_, ?_, ?_, congrArg some (Update.carry_congr hidentity h.previous)⟩
  all_goals simp only [Gathering.step, h.finished, h.current, h.usage, hopened, hnew, htake]

theorem Alike.steps {g g' : Gathering} (h : Alike g g') (us : List Update) :
    Alike (us.foldl Gathering.step g) (us.foldl Gathering.step g') := by
  induction us generalizing g g' with
  | nil => exact h
  | cons u rest ih => exact ih (h.step rfl fun _ _ => rfl)

/-- The two halves of an update are gathered as the whole is. -/
theorem step_cut_update (g : Gathering) {now again : Identity} (h : Identity.GoesOn now again)
    (cs ds : List Content) :
    Alike ((g.step ⟨now, cs⟩).step ⟨again, ds⟩) (g.step ⟨now, cs ++ ds⟩) := by
  have hfirst : Update.isNewMessage (some ⟨now, cs ++ ds⟩) g.previous =
      Update.isNewMessage (some ⟨now, cs⟩) g.previous := Update.isNewMessage_congr rfl rfl
  have hsecond := Update.not_isNewMessage_goesOn h cs ds g.previous
  refine ⟨?_, ?_, ?_, congrArg some (Update.identity_carry_goesOn h cs ds g.previous)⟩
  all_goals simp only [Gathering.step, hfirst, hsecond, Bool.false_eq_true, if_false, take_append,
    opened]

end Gathering

theorem ofUpdates_of_alike {us vs : List Update} (h : (gather us).Alike (gather vs)) :
    ofUpdates us = ofUpdates vs := by
  simp only [ofUpdates, Gathering.messages, h.finished, h.current, h.usage]

/-- Cutting an update in two changes nothing of what the updates add up to. -/
theorem ofUpdates_cut_update (before after : List Update) {now again : Identity}
    (h : Identity.GoesOn now again) (cs ds : List Content) :
    ofUpdates (before ++ ⟨now, cs⟩ :: ⟨again, ds⟩ :: after) =
      ofUpdates (before ++ ⟨now, cs ++ ds⟩ :: after) := by
  refine ofUpdates_of_alike ?_
  rw [gather_append, gather_append]
  exact (Gathering.step_cut_update _ h cs ds).steps after

/-- Cutting a text in two changes nothing of what the updates add up to. -/
theorem ofUpdates_cut_text (before after : List Update) (identity : Identity)
    (properties : Option Fields) (s t : String) (cs ds : List Content) :
    ofUpdates (before ++
        ⟨identity, cs ++ ⟨properties, .text s⟩ :: ⟨properties, .text t⟩ :: ds⟩ :: after) =
      ofUpdates (before ++ ⟨identity, cs ++ ⟨properties, .text (s ++ t)⟩ :: ds⟩ :: after) := by
  refine ofUpdates_of_alike ?_
  rw [gather_append, gather_append]
  refine Gathering.Alike.steps ?_ after
  exact (Gathering.Alike.refl _).step rfl fun m usage =>
    Gathering.take_cut_text m usage properties s t cs ds

end Run
end AgentGateway
