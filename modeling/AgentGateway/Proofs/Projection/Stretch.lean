import AgentGateway.Projection

/-! Reading a stretch: what it tells, and that it ends without a failure.

A stretch that goes on from another one ends well exactly if both do; it then tells
what the first tells followed by what the second tells. -/
namespace AgentGateway.Projection.Stretch

/-- What the events of a stretch tell, without their numbers. -/
def bodies (s : Stretch) : List Event.Body := s.events.map Event.body

@[simp] theorem events_quiet (p : State) : (quiet p).events = [] := rfl

@[simp] theorem events_failed (p : State) (f : Failure) : (failed p f).events = [] := rfl

@[simp] theorem bodies_quiet (p : State) : (quiet p).bodies = [] := rfl

@[simp] theorem state_quiet (p : State) : (quiet p).state = p := rfl

@[simp] theorem state_failed (p : State) (f : Failure) : (failed p f).state = p := rfl

@[simp] theorem failure_quiet (p : State) : (quiet p).failure = none := rfl

@[simp] theorem failure_failed (p : State) (f : Failure) : (failed p f).failure = some f := rfl

@[simp] theorem length_events (s : Stretch) : s.events.length = s.emitted.length :=
  List.length_map ..

theorem andThen_of_ends {s : Stretch} (next : State → Stretch) (h : s.failure = none) :
    s.andThen next = ⟨s.emitted ++ (next s.state).emitted, (next s.state).state,
      (next s.state).failure⟩ := by
  simp only [andThen, h]

theorem andThen_of_fails {s : Stretch} {f : Failure} (next : State → Stretch)
    (h : s.failure = some f) : s.andThen next = s := by
  simp only [andThen, h]

/-- Only the state that a stretch ends well in is gone on from. -/
theorem andThen_congr {s : Stretch} {next next' : State → Stretch}
    (h : s.failure = none → next s.state = next' s.state) : s.andThen next = s.andThen next' := by
  cases hs : s.failure with
  | none => rw [andThen_of_ends next hs, andThen_of_ends next' hs, h hs]
  | some f => rw [andThen_of_fails next hs, andThen_of_fails next' hs]

theorem andThen_quiet (s : Stretch) : s.andThen quiet = s := by
  obtain ⟨emitted, state, failure⟩ := s
  cases failure <;> simp [andThen, quiet]

/-- Going on ends well exactly if both halves do. -/
theorem failure_andThen_eq_none {s : Stretch} {next : State → Stretch} :
    (s.andThen next).failure = none ↔ s.failure = none ∧ (next s.state).failure = none := by
  cases h : s.failure with
  | none => simp only [andThen_of_ends next h, true_and]
  | some f => simp only [andThen_of_fails next h, h, reduceCtorEq, false_and]

theorem events_andThen {s : Stretch} (next : State → Stretch) (h : s.failure = none) :
    (s.andThen next).events = s.events ++ (next s.state).events := by
  rw [andThen_of_ends next h]
  exact List.map_append

theorem bodies_andThen {s : Stretch} (next : State → Stretch) (h : s.failure = none) :
    (s.andThen next).bodies = s.bodies ++ (next s.state).bodies := by
  simp only [bodies, events_andThen next h, List.map_append]

/-- Changing the last state emits nothing. -/
theorem emitted_andThen_quiet (s : Stretch) (f : State → State) :
    (s.andThen fun q => quiet (f q)).emitted = s.emitted := by
  cases h : s.failure with
  | none =>
    rw [andThen_of_ends _ h]
    exact List.append_nil _
  | some e => rw [andThen_of_fails _ h]

theorem state_andThen {s : Stretch} (next : State → Stretch) (h : s.failure = none) :
    (s.andThen next).state = (next s.state).state := by
  rw [andThen_of_ends next h]

end AgentGateway.Projection.Stretch
