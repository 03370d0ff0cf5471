import ControlPlane.Proofs.Program.Runs

/-!
# Runs in the same surroundings

Surroundings may answer the same way each time, and yet their clock goes on. So only the readings of
the clock are left open in a run that is made in them, and a program that does not read it always
comes to the same run there. The outline of a run leaves out the lines of level info, which tell
what was settled but not what is done.
-/

namespace ControlPlane

variable {trace later : List Asked} {answers : Answers}

def Query.IsInfo : Query → Prop
  | .log .info _ => True
  | _ => False

instance : DecidablePred Query.IsInfo
  | .log .info _ => .isTrue trivial
  | .log .warn _ | .log .debug _ => .isFalse id
  | .homeDirectory | .readFile _ | .runCommand _ _ | .exchange _ | .attempt _ | .permit
  | .wallClock | .steadyClock | .sleep _ => .isFalse id

/-- A run without its lines of level info. -/
def outline (trace : List Asked) : List Asked :=
  trace.filter fun asked => ¬ asked.query.IsInfo

@[simp]
theorem outline_append (first second : List Asked) :
    outline (first ++ second) = outline first ++ outline second :=
  List.filter_append ..

/-- The same answers at another time. -/
def Answers.timed (answers : Answers) (now : Instant) : Answers
  | .wallClock => now
  | query => answers query

/-- Everything but the time was answered like this. -/
def Answers.GivenIn (answers : Answers) (trace : List Asked) : Prop :=
  ∀ asked ∈ trace, asked.query ≠ .wallClock → asked.answer = answers asked.query

@[simp]
theorem Answers.givenIn_append :
    answers.GivenIn (trace ++ later) ↔ answers.GivenIn trace ∧ answers.GivenIn later :=
  List.forall_mem_append

@[simp]
theorem Answers.givenIn_cons {asked : Asked} :
    answers.GivenIn (asked :: trace) ↔
      (asked.query ≠ .wallClock → asked.answer = answers asked.query) ∧ answers.GivenIn trace :=
  List.forall_mem_cons

namespace Program

variable {α β : Type} {program : Program α}

theorem askAll_bind (answers : Answers) (program : Program α) (next : α → Program β) :
    (program >>= next).askAll answers =
      program.askAll answers ++ (next (program.answerAll answers)).askAll answers := by
  induction program with
  | done value => rfl
  | ask query resume ih =>
      rw [ask_bind, askAll, askAll, answerAll, List.cons_append]
      exact congrArg _ (ih _)

theorem givenIn_askAll_timed (answers : Answers) (now : Instant) (program : Program α) :
    answers.GivenIn (program.askAll (answers.timed now)) := by
  induction program with
  | done value => simp [askAll, Answers.GivenIn]
  | ask query resume ih =>
      rw [askAll, Answers.givenIn_cons]
      refine ⟨fun hclock => ?_, ih _⟩
      cases query with
      | wallClock => exact absurd rfl hclock
      | _ => rfl

/-- A program that does not ask for the time. -/
def Timeless (program : Program α) : Prop :=
  program.Asks (· ≠ .wallClock)

theorem Asks.timeless {allowed : Query → Prop} (h : program.Asks allowed)
    (hallowed : ¬ allowed .wallClock) : program.Timeless := by
  apply h.mono
  rintro _ hquery rfl
  exact hallowed hquery

theorem Timeless.askAll (h : program.Timeless) (answers : Answers) :
    ∀ asked ∈ program.askAll answers, asked.query ≠ .wallClock :=
  (runs_askAll answers program).asks h

/-- **The same surroundings** lead to the same run and the same result, as long as nobody asks for
the time. -/
theorem Runs.eq_of_givenIn {value : α} (h : program.Runs trace value)
    (hgiven : answers.GivenIn trace)
    (htimeless : ∀ asked ∈ program.askAll answers, asked.query ≠ .wallClock) :
    trace = program.askAll answers ∧ value = program.answerAll answers := by
  induction h with
  | done value => exact ⟨rfl, rfl⟩
  | @ask query resume trace value answer hlater ih =>
      rw [askAll, List.forall_mem_cons] at htimeless
      obtain ⟨hfirst, hrest⟩ := Answers.givenIn_cons.mp hgiven
      obtain rfl : answer = answers query := hfirst htimeless.1
      obtain ⟨htrace, hvalue⟩ := ih hrest htimeless.2
      exact ⟨congrArg _ htrace, hvalue⟩

end Program

end ControlPlane
