import ControlPlane.Proofs.Program.Outcome

/-!
# What programs ask

`Asks` says that every question a program may come to ask is allowed, whatever the answers to the
questions before it. It goes through the steps of a program one at a time, as `Every` does for
results.
-/

namespace ControlPlane

namespace Program

variable {α β : Type} {allowed wider : Query → Prop}

/-- Every question that a program may come to ask is allowed. -/
def Asks (allowed : Query → Prop) : Program α → Prop
  | .done _ => True
  | .ask query resume => allowed query ∧ ∀ answer, Asks allowed (resume answer)

@[simp]
theorem asks_done (value : α) : Asks allowed (.done value) := trivial

@[simp]
theorem asks_ask (query : Query) (resume : query.Answer → Program α) :
    Asks allowed (.ask query resume) ↔
      allowed query ∧ ∀ answer, Asks allowed (resume answer) := Iff.rfl

@[simp]
theorem asks_query (question : Query) : Asks allowed (query question) ↔ allowed question := by
  simp [query]

theorem Asks.mono {program : Program α} (h : program.Asks allowed)
    (hwider : ∀ query, allowed query → wider query) : program.Asks wider := by
  induction program with
  | done value => trivial
  | ask query resume ih => exact ⟨hwider query h.1, fun answer => ih answer (h.2 answer)⟩

/-- What is asked after a step has to be allowed only for the results that the step may have. -/
theorem asks_bind_iff {program : Program α} {next : α → Program β} :
    (program >>= next).Asks allowed ↔
      program.Asks allowed ∧ program.Every fun value => (next value).Asks allowed := by
  induction program with
  | done value => simp
  | ask query resume ih =>
      simp only [ask_bind, asks_ask, every_ask, ih, forall_and]
      exact and_assoc.symm

theorem Asks.bind {program : Program α} {next : α → Program β} (hprogram : program.Asks allowed)
    (hnext : ∀ value, (next value).Asks allowed) : (program >>= next).Asks allowed :=
  asks_bind_iff.mpr ⟨hprogram, every_of_forall hnext program⟩

end Program

namespace Attempt

variable {α β : Type} {allowed : Query → Prop}

theorem asks_bind {attempt : Attempt α} {next : α → Attempt β}
    (hattempt : attempt.run.Asks allowed) (hnext : ∀ value, (next value).run.Asks allowed) :
    (attempt >>= next).run.Asks allowed := by
  change (attempt.run >>= ExceptT.bindCont next).Asks allowed
  apply hattempt.bind
  intro result
  cases result with
  | ok value => exact hnext value
  | error failure => exact Program.asks_done _

theorem asks_lift {program : Program α} (h : program.Asks allowed) :
    (liftM program : Attempt α).run.Asks allowed := by
  change (Except.ok <$> program).Asks allowed
  rw [map_eq_pure_bind]
  exact h.bind fun value => Program.asks_done _

@[simp]
theorem asks_pure (value : α) : (pure value : Attempt α).run.Asks allowed := trivial

@[simp]
theorem asks_throw (failure : Failure) : (throw failure : Attempt α).run.Asks allowed := trivial

@[simp]
theorem asks_fail (error : Error) : (fail error : Attempt α).run.Asks allowed := trivial

@[simp]
theorem asks_ofExcept (result : Except Error α) : (ofExcept result).run.Asks allowed := by
  cases result <;> trivial

@[simp]
theorem asks_ofOption (error : Error) (value : Option α) :
    (ofOption error value).run.Asks allowed := by
  cases value <;> trivial

end Attempt

end ControlPlane
