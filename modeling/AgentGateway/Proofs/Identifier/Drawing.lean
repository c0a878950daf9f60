import AgentGateway.Identifier

/-! When an identifier can be drawn.

A source that has its partition key draws only the random characters, so whether it can
make an identifier is decided by its layout alone: it can unless the number of random
characters is negative. -/
namespace AgentGateway

namespace Drawing
variable {α β : Type} {x : Drawing α} {e e' : Entropy}

theorem bind_apply (x : Drawing α) (f : α → Drawing β) (e : Entropy) :
    (x >>= f) e = match x e with
      | (.ok a, e) => f a e
      | (.error g, e) => (.error g, e) := by
  have hbind : (x >>= f) e = ExceptT.bindCont f (x e).1 (x e).2 := rfl
  rw [hbind]
  obtain ⟨result, e'⟩ := x e
  cases result <;> rfl

theorem bind_of_ok {a : α} (h : x e = (.ok a, e')) (f : α → Drawing β) : (x >>= f) e = f a e' := by
  rw [bind_apply, h]

theorem bind_of_error {g : Failure} (h : x e = (.error g, e')) (f : α → Drawing β) :
    (x >>= f) e = (.error g, e') := by
  rw [bind_apply, h]

end Drawing

theorem Identifier.fresh_in_partition (category partition : String) (l : Layout) (e : Entropy) :
    Identifier.fresh category l (some partition) e =
      if l.entropy < 0 then (.error (.misuse .negativeLength), e)
      else (.ok s!"{category}_{String.ofList (e.peek l.entropy.toNat)}{partition}",
        e.advance l.entropy.toNat) := by
  unfold Identifier.fresh
  rw [Drawing.bind_apply, Entropy.draw]
  by_cases h : l.entropy < 0
  · rw [if_pos h, if_pos h]
  · rw [if_neg h, if_neg h]
    rfl

/-- What an identifier of some category begins with. -/
def Identifier.label (category : Option String) : String :=
  if (category.getD "").isEmpty then "id" else category.getD ""

namespace IdSource

/-- The identifier that is made of the next characters. -/
def named (s : IdSource) (label : String) (e : Entropy) : String :=
  s!"{label}_{String.ofList (e.peek s.layout.entropy.toNat)}{s.partition}"

/-- What is left when so many identifiers were made: each takes one block of characters. -/
def after (s : IdSource) (count : Nat) (e : Entropy) : Entropy :=
  e.advance (count * s.layout.entropy.toNat)

@[simp]
theorem after_zero (s : IdSource) (e : Entropy) : s.after 0 e = e := by simp [after, Entropy.advance]

@[simp]
theorem after_after (s : IdSource) (m n : Nat) (e : Entropy) :
    s.after n (s.after m e) = s.after (m + n) e := by
  simp [after, Entropy.advance, Nat.add_mul, Nat.add_assoc]

/-- The identifiers that are made of the next blocks, one block for each. -/
def names (s : IdSource) (labels : List String) (e : Entropy) : List String :=
  labels.mapIdx fun i label => s.named label (s.after i e)

@[simp]
theorem names_nil (s : IdSource) (e : Entropy) : s.names [] e = [] := rfl

theorem names_append (s : IdSource) (labels more : List String) (e : Entropy) :
    s.names (labels ++ more) e = s.names labels e ++ s.names more (s.after labels.length e) := by
  simp only [names, List.mapIdx_append, after_after, Nat.add_comm]

theorem names_cons (s : IdSource) (label : String) (labels : List String) (e : Entropy) :
    s.names (label :: labels) e = s.named label e :: s.names labels (s.after 1 e) := by
  have h := s.names_append [label] labels e
  simpa [names] using h

theorem generate_eq (s : IdSource) (category : Option String) (e : Entropy)
    (h : 0 ≤ s.layout.entropy) :
    s.generate category e = (.ok (s.named (Identifier.label category) e), s.after 1 e) := by
  unfold generate
  rw [Identifier.fresh_in_partition, if_neg (by omega), after, Nat.one_mul]
  rfl

theorem generate_of_drawable (s : IdSource) (category : Option String) (e : Entropy)
    (h : 0 ≤ s.layout.entropy) : ∃ id e', s.generate category e = (.ok id, e') :=
  ⟨_, _, s.generate_eq category e h⟩

theorem generate_of_negative (s : IdSource) (category : Option String) (e : Entropy)
    (h : s.layout.entropy < 0) :
    s.generate category e = (.error (.misuse .negativeLength), e) := by
  unfold generate
  rw [Identifier.fresh_in_partition, if_pos h]

end IdSource
end AgentGateway
