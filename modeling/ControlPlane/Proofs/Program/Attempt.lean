import ControlPlane.Proofs.Program.Outcome

/-!
# What attempts come to

Under fixed answers an attempt comes to a value or to a failure, and goes on from step to step as
long as each has a value.
-/

namespace ControlPlane.Attempt

variable {α β : Type} (answers : Answers)

/-- The value or the failure of an attempt if the same answers are given throughout. -/
def outcome (attempt : Attempt α) : Except Failure α :=
  attempt.run.answerAll answers

@[simp]
theorem outcome_pure (value : α) : outcome answers (pure value) = .ok value := rfl

@[simp]
theorem outcome_throw (failure : Failure) :
    outcome answers (throw failure : Attempt α) = .error failure := rfl

@[simp]
theorem outcome_fail (error : Error) :
    outcome answers (fail error : Attempt α) = .error (.error error) := rfl

@[simp]
theorem outcome_lift (program : Program α) :
    outcome answers (liftM program : Attempt α) = .ok (program.answerAll answers) := by
  change (Except.ok <$> program).answerAll answers = _
  rw [map_eq_pure_bind, Program.answerAll_bind]
  rfl

theorem outcome_bind (attempt : Attempt α) (next : α → Attempt β) :
    outcome answers (attempt >>= next) =
      outcome answers attempt >>= fun value => outcome answers (next value) := by
  change (attempt.run >>= ExceptT.bindCont next).answerAll answers = _
  rw [Program.answerAll_bind]
  unfold outcome
  cases attempt.run.answerAll answers <;> rfl

@[simp]
theorem outcome_bind_eq_ok {attempt : Attempt α} {next : α → Attempt β} {result : β} :
    outcome answers (attempt >>= next) = .ok result ↔
      ∃ value, outcome answers attempt = .ok value ∧ outcome answers (next value) = .ok result := by
  rw [outcome_bind]
  cases outcome answers attempt <;> simp [bind, Except.bind]

@[simp]
theorem outcome_map_eq_ok {attempt : Attempt α} {change : α → β} {result : β} :
    outcome answers (change <$> attempt) = .ok result ↔
      ∃ value, outcome answers attempt = .ok value ∧ change value = result := by
  rw [map_eq_pure_bind, outcome_bind_eq_ok]
  simp

/-- A step that is only a question or a log line does not fail. -/
theorem outcome_lift_bind (program : Program α) (next : α → Attempt β) :
    outcome answers (liftM program >>= next) =
      outcome answers (next (program.answerAll answers)) := by
  rw [outcome_bind, outcome_lift]
  rfl

omit answers in
/-- A property of results holds after two steps if it holds of the failures of the first and of all
results of the second. -/
theorem every_bind {property : Except Failure β → Prop} {attempt : Attempt α}
    {next : α → Attempt β}
    (hattempt : attempt.run.Every fun result =>
      ∀ failure, result = .error failure → property (.error failure))
    (hnext : ∀ value, (next value).run.Every property) :
    (attempt >>= next).run.Every property := by
  change (attempt.run >>= ExceptT.bindCont next).Every property
  rw [Program.every_bind]
  refine hattempt.mono fun result hresult => ?_
  cases result with
  | ok value => exact hnext value
  | error failure => exact hresult failure rfl

omit answers in
/-- All failures may have the property. -/
theorem every_bind_of_fails {property : Except Failure β → Prop} {attempt : Attempt α}
    {next : α → Attempt β} (hfails : ∀ failure, property (.error failure))
    (hnext : ∀ value, (next value).run.Every property) :
    (attempt >>= next).run.Every property :=
  every_bind (Program.every_of_forall (fun _ failure _ => hfails failure) _) hnext

end ControlPlane.Attempt
