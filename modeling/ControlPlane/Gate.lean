import ControlPlane.Program

/-!
# Values made on demand

A gate guards a state that many callers share. A caller who finds a usable value in the state takes
it. The others make one, one caller at a time: each looks again once it is its turn, and only if
there is still no value it goes through the stages, the first of which that comes to an outcome ends
the work. A failure is told to the caller who met it and is not kept for the next.
-/

namespace ControlPlane

/-- One stage of making a value: the state it leaves, and an outcome unless another stage is due. -/
abbrev Stage (σ α : Type) := σ → Program (σ × Option (Except Failure α))

structure Gate (σ α : Type) where
  /-- The value in a state, if it can be used. -/
  look : σ → Program (Option α)
  /-- What is tried in turn. -/
  stages : List (Stage σ α) := []
  /-- What is done when no stage had an outcome. -/
  last : σ → Program (σ × Except Failure α)

namespace Gate

variable {σ α : Type}

/-- Makes a value by the stages that are left. -/
def work (gate : Gate σ α) : List (Stage σ α) → σ → Program (σ × Except Failure α)
  | [], state => gate.last state
  | stage :: rest, state => do
    let (state, outcome) ← stage state
    match outcome with
    | some outcome => return (state, outcome)
    | none => gate.work rest state

/-- The call of one caller whom nobody disturbs. -/
def get (gate : Gate σ α) (state : σ) : Program (σ × Except Failure α) := do
  match ← gate.look state with
  | some value => return (state, .ok value)
  | none =>
    match ← gate.look state with
    | some value => return (state, .ok value)
    | none => gate.work gate.stages state

/-- The calls of several callers, let in one after the other. -/
def getEach (gate : Gate σ α) : Nat → σ → Program (σ × List (Except Failure α))
  | 0, state => return (state, [])
  | callers + 1, state => do
    let (state, outcome) ← gate.get state
    let (state, outcomes) ← gate.getEach callers state
    return (state, outcome :: outcomes)

end Gate

end ControlPlane
