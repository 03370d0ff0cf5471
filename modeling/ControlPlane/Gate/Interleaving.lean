import ControlPlane.Gate

/-!
# Callers at a gate

Any number of callers share the state behind a gate and take their steps in any order: a caller
looks without the guard, waits for it, looks again under it, makes a value one question at a time,
and gives the guard back. A caller may go away at any point; the guard it may hold is then free
again, and what its finished stages left in the state stays there.

The steps between two questions are taken at once, as by tasks that let others run only while they
wait. What the questions are answered is given with each step, so that clocks, files and servers may
change from one to the next.
-/

namespace ControlPlane.Gate

/-- Where a caller stands. -/
inductive Phase (σ α : Type) where
  /-- Has not looked yet. -/
  | arriving
  /-- Found nothing, and waits for the guard. -/
  | waiting
  /-- Holds the guard, and has not looked again. -/
  | holding
  /-- Holds the guard and makes a value: the stage it is in, and the stages after it. -/
  | working (current : Program (σ × Option (Except Failure α))) (rest : List (Stage σ α))
  /-- Holds the guard and has an outcome. -/
  | leaving (outcome : Except Failure α)
  | finished (outcome : Except Failure α)
  /-- Went away before it had an outcome. -/
  | gone

/-- The callers at a gate, who holds the guard, and the state that they share. -/
structure Crowd (σ α : Type) where
  state : σ
  holder : Option Nat := none
  phase : Nat → Phase σ α := fun _ => .arriving

/-- One step of one caller. -/
inductive Event where
  | look (caller : Nat) (answers : Answers)
  | enter (caller : Nat)
  | lookAgain (caller : Nat) (answers : Answers)
  | advance (caller : Nat) (answers : Answers)
  | leave (caller : Nat)
  | goAway (caller : Nat)

variable {σ α : Type}

/-- The last resort as a stage. -/
def lastStage (gate : Gate σ α) : Stage σ α := fun state => do
  let (state, outcome) ← gate.last state
  return (state, some outcome)

/-- Begins the next of the stages that are left. -/
def beginStage (gate : Gate σ α) (state : σ) : List (Stage σ α) → Phase σ α
  | [] => .working (gate.lastStage state) []
  | stage :: rest => .working (stage state) rest

namespace Crowd

/-- Moves a caller. -/
def place (crowd : Crowd σ α) (caller : Nat) (phase : Phase σ α) : Crowd σ α :=
  { crowd with phase := fun other => if other = caller then phase else crowd.phase other }

@[simp]
theorem phase_place_self (crowd : Crowd σ α) (caller : Nat) (phase : Phase σ α) :
    (crowd.place caller phase).phase caller = phase := by
  simp [place]

@[simp]
theorem state_place (crowd : Crowd σ α) (caller : Nat) (phase : Phase σ α) :
    (crowd.place caller phase).state = crowd.state := rfl

@[simp]
theorem holder_place (crowd : Crowd σ α) (caller : Nat) (phase : Phase σ α) :
    (crowd.place caller phase).holder = crowd.holder := rfl

/-- Gives the guard back if a caller holds it. -/
def release (crowd : Crowd σ α) (caller : Nat) : Crowd σ α :=
  if crowd.holder = some caller then { crowd with holder := none } else crowd

/-- Goes on with a stage that has ended. -/
def endStage (gate : Gate σ α) (crowd : Crowd σ α) (caller : Nat) (rest : List (Stage σ α)) :
    σ × Option (Except Failure α) → Crowd σ α
  | (state, some outcome) => { crowd with state := state }.place caller (.leaving outcome)
  | (state, none) => { crowd with state := state }.place caller (beginStage gate state rest)

/-- The crowd after a step, if the step can be taken. -/
def step? (gate : Gate σ α) (crowd : Crowd σ α) : Event → Option (Crowd σ α)
  | .look caller answers =>
    match crowd.phase caller with
    | .arriving =>
      match (gate.look crowd.state).answerAll answers with
      | some value => some (crowd.place caller (.finished (.ok value)))
      | none => some (crowd.place caller .waiting)
    | _ => none
  | .enter caller =>
    match crowd.phase caller, crowd.holder with
    | .waiting, none => some ({ crowd with holder := some caller }.place caller .holding)
    | _, _ => none
  | .lookAgain caller answers =>
    match crowd.phase caller with
    | .holding =>
      match (gate.look crowd.state).answerAll answers with
      | some value => some (crowd.place caller (.leaving (.ok value)))
      | none => some (crowd.place caller (beginStage gate crowd.state gate.stages))
    | _ => none
  | .advance caller answers =>
    match crowd.phase caller with
    | .working (.done result) rest => some (endStage gate crowd caller rest result)
    | .working (.ask query resume) rest =>
      some (crowd.place caller (.working (resume (answers query)) rest))
    | _ => none
  | .leave caller =>
    match crowd.phase caller with
    | .leaving outcome => some ((crowd.release caller).place caller (.finished outcome))
    | _ => none
  | .goAway caller =>
    match crowd.phase caller with
    | .finished _ => none
    | .gone => none
    | _ => some ((crowd.release caller).place caller .gone)

/-- The crowd after steps, if all of them can be taken. -/
def run? (gate : Gate σ α) (crowd : Crowd σ α) : List Event → Option (Crowd σ α)
  | [] => some crowd
  | event :: rest => (step? gate crowd event).bind fun next => run? gate next rest

end Crowd

end ControlPlane.Gate
