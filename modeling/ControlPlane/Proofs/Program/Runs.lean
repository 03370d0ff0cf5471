import ControlPlane.Proofs.Program.Asks

/-!
# Runs of programs

`Runs` lists what was asked in one run of a program, and what was answered, in order. The answers
are free: the same question may be answered in different ways at different times. What `Every` says
of all results holds of the result of a run, and what `Asks` says of all questions holds of its
trace.
-/

namespace ControlPlane

/-- A question that was asked, with its answer. -/
structure Asked where
  query : Query
  answer : query.Answer

namespace Program

variable {α β : Type} {program : Program α} {next : α → Program β} {trace : List Asked}

inductive Runs : Program α → List Asked → α → Prop where
  | done (value : α) : Runs (.done value) [] value
  | ask {query : Query} {resume : query.Answer → Program α} {trace : List Asked} {value : α}
      (answer : query.Answer) (later : Runs (resume answer) trace value) :
      Runs (.ask query resume) (⟨query, answer⟩ :: trace) value

@[simp]
theorem runs_done_iff {value result : α} :
    Runs (.done value) trace result ↔ trace = [] ∧ result = value := by
  constructor
  · rintro ⟨⟩
    exact ⟨rfl, rfl⟩
  · rintro ⟨rfl, rfl⟩
    exact .done result

theorem runs_ask_iff {query : Query} {resume : query.Answer → Program α} {result : α} :
    Runs (.ask query resume) trace result ↔
      ∃ answer later, trace = ⟨query, answer⟩ :: later ∧ Runs (resume answer) later result := by
  constructor
  · rintro (_ | ⟨answer, hlater⟩)
    exact ⟨answer, _, rfl, hlater⟩
  · rintro ⟨answer, later, rfl, hlater⟩
    exact .ask answer hlater

@[simp]
theorem runs_query_iff {question : Query} {result : question.Answer} :
    Runs (query question) trace result ↔ trace = [⟨question, result⟩] := by
  simp only [query, runs_ask_iff, runs_done_iff]
  constructor
  · rintro ⟨answer, later, rfl, rfl, rfl⟩
    rfl
  · rintro rfl
    exact ⟨result, [], rfl, rfl, rfl⟩

/-- A run of two steps is a run of the first and then one of the second. -/
theorem runs_bind_iff {result : β} :
    Runs (program >>= next) trace result ↔
      ∃ first value second, trace = first ++ second ∧ Runs program first value ∧
        Runs (next value) second result := by
  induction program generalizing trace with
  | done value =>
      simp only [done_bind, runs_done_iff]
      constructor
      · intro hnext
        exact ⟨[], value, trace, rfl, ⟨rfl, rfl⟩, hnext⟩
      · rintro ⟨first, value, second, rfl, ⟨rfl, rfl⟩, hnext⟩
        exact hnext
  | ask query resume ih =>
      simp only [ask_bind, runs_ask_iff, ih]
      constructor
      · rintro ⟨answer, later, rfl, first, value, second, rfl, hfirst, hnext⟩
        exact ⟨_, value, second, rfl, ⟨answer, first, rfl, hfirst⟩, hnext⟩
      · rintro ⟨_, value, second, rfl, ⟨answer, first, rfl, hfirst⟩, hnext⟩
        exact ⟨answer, first ++ second, rfl, first, value, second, rfl, hfirst, hnext⟩

/-- What was answered decides what a program comes to. -/
theorem Runs.unique {value other : α} (h : Runs program trace value)
    (hother : Runs program trace other) : other = value := by
  induction h with
  | done value => exact (runs_done_iff.mp hother).2
  | ask answer _ ih =>
      obtain ⟨_, _, ⟨⟩, hlater⟩ := runs_ask_iff.mp hother
      exact ih hlater

theorem Runs.every {property : α → Prop} {value : α} (h : Runs program trace value)
    (hevery : program.Every property) : property value := by
  induction h with
  | done value => exact hevery
  | ask answer _ ih => exact ih (hevery answer)

theorem Runs.asks {allowed : Query → Prop} {value : α} (h : Runs program trace value)
    (hasks : program.Asks allowed) : ∀ asked ∈ trace, allowed asked.query := by
  induction h with
  | done value => simp
  | ask answer _ ih =>
      rw [List.forall_mem_cons]
      exact ⟨hasks.1, ih (hasks.2 answer)⟩

/-- What is asked if the same answers are given throughout. -/
def askAll (answers : Answers) : Program α → List Asked
  | .done _ => []
  | .ask query resume => ⟨query, answers query⟩ :: askAll answers (resume (answers query))

/-- Every program comes to a result, whoever answers. -/
theorem runs_askAll (answers : Answers) (program : Program α) :
    Runs program (program.askAll answers) (program.answerAll answers) := by
  induction program with
  | done value => exact .done value
  | ask query resume ih => exact .ask (answers query) (ih (answers query))

/-- What is asked if the answers change from question to question. -/
def askEach (answers : Nat → Answers) : Program α → List Asked
  | .done _ => []
  | .ask query resume =>
    ⟨query, answers 0 query⟩ :: askEach (fun n => answers (n + 1)) (resume (answers 0 query))

/-- What a program comes to if the answers change from question to question. -/
def answerEach (answers : Nat → Answers) : Program α → α
  | .done value => value
  | .ask query resume => answerEach (fun n => answers (n + 1)) (resume (answers 0 query))

theorem runs_askEach (answers : Nat → Answers) (program : Program α) :
    Runs program (program.askEach answers) (program.answerEach answers) := by
  induction program generalizing answers with
  | done value => exact .done value
  | ask query resume ih => exact .ask (answers 0 query) (ih (answers 0 query) _)

theorem askEach_const (answers : Answers) (program : Program α) :
    program.askEach (fun _ => answers) = program.askAll answers := by
  induction program with
  | done value => rfl
  | ask query resume ih => exact congrArg _ (ih (answers query))

/-! ### Results that are apart -/

section

variable {γ δ : Type} {apart : α → β → Prop} {resultApart : γ → δ → Prop} {twin : Program β}
  {next : α → Program γ} {other : β → Program δ}

/-- Programs whose results are apart, whatever each of them is answered. -/
def Apart (apart : α → β → Prop) (program : Program α) (twin : Program β) : Prop :=
  ∀ trace others value reply, program.Runs trace value → twin.Runs others reply → apart value reply

theorem apart_done {value : α} {reply : β} (h : apart value reply) :
    Apart apart (.done value) (.done reply) := by
  intro trace others first second hrun htwin
  rwa [(runs_done_iff.mp hrun).2, (runs_done_iff.mp htwin).2]

theorem Apart.bind (h : Apart apart program twin)
    (hnext : ∀ value reply, apart value reply → Apart resultApart (next value) (other reply)) :
    Apart resultApart (program >>= next) (twin >>= other) := by
  intro trace others value reply hrun htwin
  obtain ⟨_, first, _, -, hfirst, hvalue⟩ := runs_bind_iff.mp hrun
  obtain ⟨_, second, _, -, hsecond, hreply⟩ := runs_bind_iff.mp htwin
  exact hnext first second (h _ _ _ _ hfirst hsecond) _ _ _ _ hvalue hreply

/-- What comes first does not matter if all that may follow is apart. -/
theorem apart_bind (hnext : ∀ value reply, Apart resultApart (next value) (other reply)) :
    Apart resultApart (program >>= next) (twin >>= other) := by
  have hany : Apart (fun (_ : α) (_ : β) => True) program twin := fun _ _ _ _ _ _ => trivial
  exact hany.bind fun value reply _ => hnext value reply

end

end Program

namespace Attempt

variable {α β : Type} {attempt : Attempt α} {next : α → Attempt β} {trace : List Asked}

/-- A run of two steps fails in the first, or runs the second on the value of the first. -/
theorem runs_bind_iff {result : Except Failure β} :
    (attempt >>= next).run.Runs trace result ↔
      (∃ failure, attempt.run.Runs trace (.error failure) ∧ result = .error failure) ∨
        ∃ first value second, trace = first ++ second ∧ attempt.run.Runs first (.ok value) ∧
          (next value).run.Runs second result := by
  have hbind : (attempt >>= next).run = attempt.run >>= ExceptT.bindCont next := rfl
  rw [hbind, Program.runs_bind_iff]
  constructor
  · rintro ⟨first, value, second, rfl, hattempt, hnext⟩
    cases value with
    | error failure =>
        obtain ⟨rfl, rfl⟩ := Program.runs_done_iff.mp hnext
        exact .inl ⟨failure, by simpa using hattempt, rfl⟩
    | ok value => exact .inr ⟨first, value, second, rfl, hattempt, hnext⟩
  · rintro (⟨failure, hattempt, rfl⟩ | ⟨first, value, second, rfl, hattempt, hnext⟩)
    · exact ⟨trace, .error failure, [], by simp, hattempt, .done _⟩
    · exact ⟨first, .ok value, second, rfl, hattempt, hnext⟩

/-- A run that has a value has one after each step. -/
theorem runs_bind_ok {result : β} (h : (attempt >>= next).run.Runs trace (.ok result)) :
    ∃ first value second, trace = first ++ second ∧ attempt.run.Runs first (.ok value) ∧
      (next value).run.Runs second (.ok result) := by
  rcases runs_bind_iff.mp h with ⟨failure, -, hfailure⟩ | hvalue
  · cases hfailure
  · exact hvalue

/-- A step whose value is only made into another. -/
theorem runs_bind_pure_iff {make : α → β} {result : β} :
    (attempt >>= fun value => pure (make value)).run.Runs trace (.ok result) ↔
      ∃ value, attempt.run.Runs trace (.ok value) ∧ result = make value := by
  constructor
  · intro h
    obtain ⟨first, value, rest, rfl, hattempt, hdone⟩ := runs_bind_ok h
    obtain ⟨rfl, hresult⟩ := Program.runs_done_iff.mp hdone
    rw [List.append_nil]
    exact ⟨value, hattempt, Except.ok.inj hresult⟩
  · rintro ⟨value, hattempt, rfl⟩
    exact runs_bind_iff.mpr
      (.inr ⟨trace, value, [], (List.append_nil trace).symm, hattempt, .done _⟩)

theorem runs_ofExcept_iff {found : Except Error α} {result : α} :
    (ofExcept found).run.Runs trace (.ok result) ↔ trace = [] ∧ found = .ok result := by
  cases found with
  | ok value =>
      constructor
      · intro h
        obtain ⟨rfl, hvalue⟩ := Program.runs_done_iff.mp h
        exact ⟨rfl, congrArg _ (Except.ok.inj hvalue).symm⟩
      · rintro ⟨rfl, hvalue⟩
        rw [Except.ok.inj hvalue]
        exact .done _
  | error error =>
      constructor
      · intro h
        cases (Program.runs_done_iff.mp h).2
      · rintro ⟨-, ⟨⟩⟩

/-- A step that is only a question or a log line does not fail. -/
theorem run_lift_bind (program : Program α) (next : α → Attempt β) :
    (liftM program >>= next : Attempt β).run = program >>= fun value => (next value).run := by
  change (Except.ok <$> program) >>= ExceptT.bindCont next = _
  rw [map_eq_pure_bind, bind_assoc]
  rfl

theorem runs_lift_bind_iff {program : Program α} {result : Except Failure β} :
    (liftM program >>= next).run.Runs trace result ↔
      ∃ first value second, trace = first ++ second ∧ program.Runs first value ∧
        (next value).run.Runs second result := by
  rw [run_lift_bind, Program.runs_bind_iff]

end Attempt

end ControlPlane
