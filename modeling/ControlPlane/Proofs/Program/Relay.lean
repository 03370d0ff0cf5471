import ControlPlane.Proofs.Program.Effects

/-!
# Attempts made by another program

A program that sends by attempts leaves open who makes them. When a program makes each of them, a
run of the whole is a run of the first in which every attempt has been replaced by a run of the
second, and the two agree on what the attempt came to.
-/

namespace ControlPlane

open Program

variable {α β : Type} {send : Request → Program (Except Error Response)} {program : Program α}
  {outer trace : List Asked} {value : α}

/-- A trace in which the attempts of another are replaced by runs of a program that makes them. -/
inductive Relayed (send : Request → Program (Except Error Response)) :
    List Asked → List Asked → Prop where
  | nil : Relayed send [] []
  | attempt {request : Request} {answer : Except Error Response} {part outer trace : List Asked}
      (hpart : (send request).Runs part answer) (hrest : Relayed send outer trace) :
      Relayed send (⟨.attempt request, answer⟩ :: outer) (part ++ trace)
  | other {asked : Asked} {outer trace : List Asked} (hasked : asked.query.attempted? = none)
      (hrest : Relayed send outer trace) : Relayed send (asked :: outer) (asked :: trace)

namespace Program

@[simp]
theorem attemptBy_done (value : α) : attemptBy send (.done value) = .done value := rfl

theorem attemptBy_attempt (request : Request) (resume : Except Error Response → Program α) :
    attemptBy send (.ask (.attempt request) resume) =
      send request >>= fun answer => attemptBy send (resume answer) := rfl

theorem attemptBy_other {query : Query} (hquery : query.attempted? = none)
    (resume : query.Answer → Program α) :
    attemptBy send (.ask query resume) = .ask query fun answer => attemptBy send (resume answer) := by
  cases query with
  | attempt request => cases hquery
  | _ => rfl

theorem attemptBy_bind (program : Program α) (next : α → Program β) :
    attemptBy send (program >>= next) =
      attemptBy send program >>= fun value => attemptBy send (next value) := by
  induction program with
  | done value => rfl
  | ask query resume ih =>
      by_cases hquery : query.attempted? = none
      · rw [ask_bind, attemptBy_other hquery, attemptBy_other hquery, ask_bind]
        simp only [ih]
      · cases query with
        | attempt request =>
            rw [ask_bind, attemptBy_attempt, attemptBy_attempt, bind_assoc]
            simp only [ih]
        | _ => exact absurd rfl hquery

/-- **Runs with a relay.** They are the runs of the program that is relayed, opened up. -/
theorem runs_attemptBy_iff :
    (program.attemptBy send).Runs trace value ↔
      ∃ outer, program.Runs outer value ∧ Relayed send outer trace := by
  induction program generalizing trace with
  | done result =>
      simp only [attemptBy_done, runs_done_iff]
      constructor
      · rintro ⟨rfl, rfl⟩
        exact ⟨[], ⟨rfl, rfl⟩, .nil⟩
      · rintro ⟨_, ⟨rfl, rfl⟩, hrelayed⟩
        cases hrelayed
        exact ⟨rfl, rfl⟩
  | ask query resume ih =>
      by_cases hquery : query.attempted? = none
      · rw [attemptBy_other hquery, runs_ask_iff]
        simp only [ih, runs_ask_iff]
        constructor
        · rintro ⟨answer, later, rfl, outer, hruns, hrelayed⟩
          exact ⟨_, ⟨answer, outer, rfl, hruns⟩, .other hquery hrelayed⟩
        · rintro ⟨_, ⟨answer, outer, rfl, hruns⟩, hrelayed⟩
          cases hrelayed with
          | attempt _ _ => cases hquery
          | other _ hrest => exact ⟨answer, _, rfl, outer, hruns, hrest⟩
      · cases query with
        | attempt request =>
            rw [attemptBy_attempt, runs_bind_iff]
            simp only [ih, runs_ask_iff]
            constructor
            · rintro ⟨part, answer, later, rfl, hpart, outer, hruns, hrelayed⟩
              exact ⟨_, ⟨answer, outer, rfl, hruns⟩, .attempt hpart hrelayed⟩
            · rintro ⟨_, ⟨answer, outer, rfl, hruns⟩, hrelayed⟩
              cases hrelayed with
              | attempt hpart hrest => exact ⟨_, answer, _, rfl, hpart, outer, hruns, hrest⟩
              | other hasked _ => cases hasked
        | _ => exact absurd rfl hquery

end Program

end ControlPlane
