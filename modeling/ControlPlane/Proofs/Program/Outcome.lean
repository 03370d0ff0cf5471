import ControlPlane.Program

/-!
# What programs come to

`Every` says that a property holds of each result of a program, whatever its questions are answered
and however the answers change from one question to the next. `answerAll` fixes the answers, and then
a program has one result; both go through the steps of a program one at a time.
-/

namespace ControlPlane.Program

variable {α β : Type}

/-- Every result of a program has a property. -/
def Every (property : α → Prop) : Program α → Prop
  | .done value => property value
  | .ask _ resume => ∀ answer, Every property (resume answer)

@[simp]
theorem every_done (property : α → Prop) (value : α) :
    Every property (.done value) ↔ property value := Iff.rfl

@[simp]
theorem every_ask (property : α → Prop) (query : Query) (resume : query.Answer → Program α) :
    Every property (.ask query resume) ↔ ∀ answer, Every property (resume answer) := Iff.rfl

@[simp]
theorem every_bind (property : β → Prop) (program : Program α) (next : α → Program β) :
    Every property (program >>= next) ↔
      Every (fun value => Every property (next value)) program := by
  induction program with
  | done value => simp
  | ask query resume ih => simp only [ask_bind, every_ask, ih]

theorem every_of_forall {property : α → Prop} (h : ∀ value, property value)
    (program : Program α) : Every property program := by
  induction program with
  | done value => exact h value
  | ask query resume ih => exact fun answer => ih answer

theorem Every.mono {property other : α → Prop} {program : Program α} (h : program.Every property)
    (hother : ∀ value, property value → other value) : program.Every other := by
  induction program with
  | done value => exact hother value h
  | ask query resume ih => exact fun answer => ih answer (h answer)

/-! ### Results under fixed answers -/

variable (answers : Answers)

@[simp]
theorem answerAll_done (value : α) : answerAll answers (.done value) = value := rfl

@[simp]
theorem answerAll_query (question : Query) :
    answerAll answers (query question) = answers question := rfl

@[simp]
theorem answerAll_bind (program : Program α) (next : α → Program β) :
    answerAll answers (program >>= next) = answerAll answers (next (answerAll answers program)) := by
  induction program with
  | done value => rfl
  | ask query resume ih => exact ih (answers query)

end ControlPlane.Program

namespace ControlPlane

/-- Outcomes that are the same failure, or successes with related values. -/
inductive SameOutcome {ε α β : Type} (related : α → β → Prop) : Except ε α → Except ε β → Prop where
  | error (cause : ε) : SameOutcome related (.error cause) (.error cause)
  | ok {value : α} {twin : β} (h : related value twin) : SameOutcome related (.ok value) (.ok twin)

theorem SameOutcome.refl {ε α : Type} {related : α → α → Prop}
    (hrefl : ∀ value, related value value) (outcome : Except ε α) :
    SameOutcome related outcome outcome := by
  cases outcome with
  | error cause => exact .error cause
  | ok value => exact .ok (hrefl value)

theorem SameOutcome.mono {ε α β : Type} {related wider : α → β → Prop} {first : Except ε α}
    {second : Except ε β} (h : SameOutcome related first second)
    (hwider : ∀ value twin, related value twin → wider value twin) :
    SameOutcome wider first second := by
  cases h with
  | error cause => exact .error cause
  | ok h => exact .ok (hwider _ _ h)

theorem SameOutcome.bind {ε α β γ δ : Type} {related : α → β → Prop} {result : γ → δ → Prop}
    {first : Except ε α} {second : Except ε β} {next : α → Except ε γ} {other : β → Except ε δ}
    (h : SameOutcome related first second)
    (hnext : ∀ value twin, related value twin → SameOutcome result (next value) (other twin)) :
    SameOutcome result (first >>= next) (second >>= other) := by
  cases h with
  | error cause => exact .error cause
  | ok h => exact hnext _ _ h

/-- The answers of surroundings in which there is nothing, and every clock stands at zero. -/
def Answers.bare : Answers
  | .homeDirectory => none
  | .readFile _ => .error .notFound
  | .runCommand _ _ => .error .notInstalled
  | .exchange request => .error (.failed (.unsent request.url.text))
  | .attempt request => .error (.http (.unsent request.url.text))
  | .permit => ()
  | .wallClock => ⟨0⟩
  | .steadyClock => Span.zero
  | .sleep _ => ()
  | .log _ _ => ()

end ControlPlane
