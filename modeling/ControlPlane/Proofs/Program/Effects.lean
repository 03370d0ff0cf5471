import ControlPlane.Proofs.Program.Runs

/-!
# What a run does beside logging

Log lines are written all along a run and decide nothing. What a run does otherwise are its effects,
in order; a quiet run has none, and a program whose runs are all quiet has one result. An attempt is
the effect by which a call is sent.
-/

namespace ControlPlane

open Program

def Query.IsLog : Query → Prop
  | .log _ _ => True
  | _ => False

instance : DecidablePred Query.IsLog
  | .log _ _ => .isTrue trivial
  | .homeDirectory | .readFile _ | .runCommand _ _ | .exchange _ | .attempt _ | .permit
  | .wallClock | .steadyClock | .sleep _ => .isFalse id

def effectsOf (trace : List Asked) : List Asked :=
  trace.filter fun asked => ¬ asked.query.IsLog

def Quiet (trace : List Asked) : Prop :=
  ∀ asked ∈ trace, asked.query.IsLog

variable {α : Type} {program : Program α} {trace : List Asked} {value : α}

@[simp]
theorem effectsOf_append (first second : List Asked) :
    effectsOf (first ++ second) = effectsOf first ++ effectsOf second :=
  List.filter_append ..

theorem effectsOf_eq_nil_iff : effectsOf trace = [] ↔ Quiet trace := by
  simp [effectsOf, Quiet, List.filter_eq_nil_iff]

/-- The effects of a run are among what its program may ask for. -/
theorem mem_of_mem_effectsOf {asked : Asked} (h : asked ∈ effectsOf trace) : asked ∈ trace :=
  (List.mem_filter.mp h).1

theorem Program.every_of_isLog {property : α → Prop} (h : program.Asks Query.IsLog)
    (answers : Answers) (hresult : property (program.answerAll answers)) :
    program.Every property := by
  induction program with
  | done value => exact hresult
  | ask query resume ih =>
      cases query with
      | log level line => exact fun _ => ih _ (h.2 _) hresult
      | _ => exact h.1.elim

/-- A program that only writes to the log comes to the same whoever answers. -/
theorem Program.runs_of_isLog (h : program.Runs trace value) (hasks : program.Asks Query.IsLog)
    (answers : Answers) : Quiet trace ∧ value = program.answerAll answers := by
  constructor
  · exact h.asks hasks
  · have hevery : program.Every (· = program.answerAll answers) :=
      every_of_isLog hasks answers rfl
    exact h.every hevery

/-! ### Attempts -/

/-- The request that is attempted. -/
def Query.attempted? : Query → Option Request
  | .attempt request => some request
  | _ => none

/-- The requests of all attempts in a run, in order. -/
def attemptsOf (trace : List Asked) : List Request :=
  trace.filterMap fun asked => asked.query.attempted?

@[simp]
theorem attemptsOf_append (first second : List Asked) :
    attemptsOf (first ++ second) = attemptsOf first ++ attemptsOf second :=
  List.filterMap_append

def Program.AttemptFree (program : Program α) : Prop :=
  program.Asks fun query => query.attempted? = none

theorem Program.AttemptFree.attemptsOf_eq_nil (hfree : program.AttemptFree)
    (h : program.Runs trace value) : attemptsOf trace = [] :=
  List.filterMap_eq_nil_iff.mpr (h.asks hfree)

theorem Program.Asks.attemptFree {allowed : Query → Prop} (h : program.Asks allowed)
    (hallowed : ∀ request, ¬ allowed (.attempt request)) : program.AttemptFree := by
  apply h.mono
  intro query hquery
  cases query with
  | attempt request => exact absurd hquery (hallowed request)
  | _ => rfl

end ControlPlane
