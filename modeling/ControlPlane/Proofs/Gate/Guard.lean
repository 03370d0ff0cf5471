import ControlPlane.Proofs.Gate.Move
import ControlPlane.Proofs.Program.Outcome

/-!
# One caller at a time

The guard is held by exactly the caller whose phase says so, so at most one caller makes a value. A
`Contract` says in what states a gate's stages may begin and what they come to; `Orderly` is what the
callers at such a gate keep up: whoever makes a value does so from the shared state as it stands, and
will leave what the contract says.
-/

namespace ControlPlane.Gate

variable {σ α : Type} {gate : Gate σ α} {crowd next : Crowd σ α} {event : Event}
  {deed : Option (Deed α)}

namespace Crowd

theorem phase_place (crowd : Crowd σ α) (caller other : Nat) (phase : Phase σ α) :
    (crowd.place caller phase).phase other =
      if other = caller then phase else crowd.phase other := rfl

@[simp]
theorem phase_release (crowd : Crowd σ α) (caller : Nat) :
    (crowd.release caller).phase = crowd.phase := by
  unfold release
  split <;> rfl

@[simp]
theorem state_release (crowd : Crowd σ α) (caller : Nat) :
    (crowd.release caller).state = crowd.state := by
  unfold release
  split <;> rfl

theorem holder_release (crowd : Crowd σ α) (caller other : Nat) :
    (crowd.release caller).holder = some other ↔
      crowd.holder = some other ∧ other ≠ caller := by
  unfold release
  split <;> grind

/-- The guard is held by the one caller whose phase says so. -/
def Guarded (crowd : Crowd σ α) : Prop :=
  ∀ caller, (crowd.phase caller).HoldsGuard ↔ crowd.holder = some caller

theorem Guarded.place (h : crowd.Guarded) {caller : Nat} {phase : Phase σ α}
    (hphase : phase.HoldsGuard ↔ (crowd.phase caller).HoldsGuard) :
    (crowd.place caller phase).Guarded := by
  intro other
  rw [phase_place, holder_place, ← h other]
  split
  · next heq => rw [heq, hphase]
  · rfl

theorem Guarded.release (h : crowd.Guarded) {caller : Nat} {phase : Phase σ α}
    (hphase : ¬ phase.HoldsGuard) : ((crowd.release caller).place caller phase).Guarded := by
  intro other
  rw [phase_place, holder_place, holder_release, phase_release]
  split
  · next heq => simp [heq, hphase]
  · next hne => simp [h other, hne]

theorem Guarded.enter (h : crowd.Guarded) (hfree : crowd.holder = none) (caller : Nat) :
    ({ crowd with holder := some caller }.place caller .holding).Guarded := by
  intro other
  rw [phase_place, holder_place]
  split
  · next heq => simp [heq, Phase.HoldsGuard]
  · next hne => simp [h other, hfree, Ne.symm hne]

theorem Guarded.unique (h : crowd.Guarded) {caller other : Nat}
    (hcaller : (crowd.phase caller).HoldsGuard) (hother : (crowd.phase other).HoldsGuard) :
    caller = other := by
  have hone := (h caller).1 hcaller
  rw [(h other).1 hother] at hone
  exact (Option.some.inj hone).symm

theorem holdsGuard_beginStage (state : σ) (stages : List (Stage σ α)) :
    (beginStage gate state stages).HoldsGuard := by
  cases stages <;> trivial

theorem Guarded.move (h : crowd.Guarded) (hmove : Move gate crowd event deed next) :
    next.Guarded := by
  cases hmove with
  | finds hphase | waits hphase => exact h.place (by simp [hphase, Phase.HoldsGuard])
  | enters hphase hfree => exact h.enter hfree _
  | findsAgain hphase | asks hphase => exact h.place (by simp [hphase, Phase.HoldsGuard])
  | begins hphase =>
      exact h.place (iff_of_true (holdsGuard_beginStage _ _) (by simp [hphase, Phase.HoldsGuard]))
  | goesOn hphase =>
      exact Guarded.place h
        (iff_of_true (holdsGuard_beginStage _ _) (by simp [hphase, Phase.HoldsGuard]))
  | makes hphase | fails hphase => exact Guarded.place h (by simp [hphase, Phase.HoldsGuard])
  | leaves | drops | goes => exact h.release id

end Crowd

/-! ### Contracts -/

/-- In what states the stages of a gate begin, and what they come to from there. -/
structure Contract (gate : Gate σ α) (ready : σ → Prop)
    (ends : σ → σ × Option (Except Failure α) → Prop) : Prop where
  ready_of_look {state : σ} {answers : Answers} :
    (gate.look state).answerAll answers = none → ready state
  stage {state : σ} : ready state → ∀ stage ∈ gate.stages, (stage state).Every (ends state)
  last {state : σ} : ready state → (gate.lastStage state).Every (ends state)
  ready_of_ends {state later : σ} : ready state → ends state (later, none) → ready later

variable {ready : σ → Prop} {ends : σ → σ × Option (Except Failure α) → Prop}

/-- Whoever makes a value does so from this state, and will leave what is agreed. -/
def Phase.Keeps (gate : Gate σ α) (ready : σ → Prop)
    (ends : σ → σ × Option (Except Failure α) → Prop) (state : σ) : Phase σ α → Prop
  | .working current rest =>
    ready state ∧ current.Every (ends state) ∧ ∀ stage ∈ rest, stage ∈ gate.stages
  | _ => True

theorem Phase.keeps_of_not_isWorking {phase : Phase σ α} (h : ¬ phase.IsWorking) (state : σ) :
    phase.Keeps gate ready ends state := by
  cases phase <;> simp_all [Keeps, IsWorking]

theorem Contract.keeps_beginStage (hcontract : Contract gate ready ends) {state : σ}
    (hready : ready state) {stages : List (Stage σ α)}
    (hstages : ∀ stage ∈ stages, stage ∈ gate.stages) :
    (beginStage gate state stages).Keeps gate ready ends state := by
  cases stages with
  | nil => exact ⟨hready, hcontract.last hready, by simp⟩
  | cons stage rest =>
      rw [List.forall_mem_cons] at hstages
      exact ⟨hready, hcontract.stage hready stage hstages.1, hstages.2⟩

/-- The guard goes by the phases, and whoever makes a value keeps the contract. -/
structure Crowd.Orderly (gate : Gate σ α) (ready : σ → Prop)
    (ends : σ → σ × Option (Except Failure α) → Prop) (crowd : Crowd σ α) : Prop where
  guarded : crowd.Guarded
  keeps (caller : Nat) : (crowd.phase caller).Keeps gate ready ends crowd.state

namespace Crowd

theorem Orderly.ready_of_isWorking (h : crowd.Orderly gate ready ends) {caller : Nat}
    (hworking : (crowd.phase caller).IsWorking) : ready crowd.state := by
  have hkeeps := h.keeps caller
  cases hphase : crowd.phase caller with
  | working current rest => exact (hphase ▸ hkeeps).1
  | _ => simp [hphase, Phase.IsWorking] at hworking

/-- A caller who moves disturbs nobody: only one who makes a value changes the state, and then nobody
else is making one. What is asked of all callers and says nothing of the others is kept. -/
theorem Guarded.undisturbed (h : crowd.Guarded) {property : σ → Phase σ α → Prop}
    (hidle : ∀ state phase, ¬ phase.IsWorking → property state phase)
    (hall : ∀ caller, property crowd.state (crowd.phase caller)) {changed : Crowd σ α}
    {caller : Nat} {phase : Phase σ α} (hphases : changed.phase = crowd.phase)
    (hstate : changed.state = crowd.state ∨ (crowd.phase caller).IsWorking)
    (hphase : property changed.state phase) (other : Nat) :
    property (changed.place caller phase).state ((changed.place caller phase).phase other) := by
  rw [phase_place, state_place, hphases]
  split
  · exact hphase
  · next hne =>
      rcases hstate with hstate | hworking
      · rw [hstate]
        exact hall other
      · refine hidle _ _ fun hother => hne ?_
        exact h.unique hother.holdsGuard hworking.holdsGuard

theorem Orderly.place (h : crowd.Orderly gate ready ends) {changed : Crowd σ α} {caller : Nat}
    {phase : Phase σ α} (hguarded : (changed.place caller phase).Guarded)
    (hphases : changed.phase = crowd.phase)
    (hstate : changed.state = crowd.state ∨ (crowd.phase caller).IsWorking)
    (hkeeps : phase.Keeps gate ready ends changed.state) :
    (changed.place caller phase).Orderly gate ready ends :=
  ⟨hguarded, h.guarded.undisturbed (fun state _ hidle => Phase.keeps_of_not_isWorking hidle state)
    h.keeps hphases hstate hkeeps⟩

theorem Orderly.move (h : crowd.Orderly gate ready ends) (hcontract : Contract gate ready ends)
    (hmove : Move gate crowd event deed next) : next.Orderly gate ready ends := by
  have hguarded := h.guarded.move hmove
  cases hmove with
  | finds | waits | enters | findsAgain => exact h.place hguarded rfl (.inl rfl) trivial
  | begins hphase hlook =>
      exact h.place hguarded rfl (.inl rfl)
        (hcontract.keeps_beginStage (hcontract.ready_of_look hlook) fun _ => id)
  | @asks caller answers query resume rest hphase =>
      have hkeeps := h.keeps caller
      rw [hphase] at hkeeps
      exact h.place hguarded rfl (.inl rfl) ⟨hkeeps.1, hkeeps.2.1 (answers query), hkeeps.2.2⟩
  | @goesOn caller answers state rest hphase =>
      have hkeeps := h.keeps caller
      rw [hphase] at hkeeps
      exact h.place hguarded rfl (.inr (Phase.isWorking_of_eq hphase))
        (hcontract.keeps_beginStage (hcontract.ready_of_ends hkeeps.1 hkeeps.2.1) hkeeps.2.2)
  | makes hphase | fails hphase =>
      exact h.place hguarded rfl (.inr (Phase.isWorking_of_eq hphase)) trivial
  | leaves | drops | goes =>
      exact h.place hguarded (phase_release _ _) (.inl (state_release _ _)) trivial

theorem orderly_start (state : σ) : ({ state } : Crowd σ α).Orderly gate ready ends :=
  ⟨fun _ => by simp [Phase.HoldsGuard], fun _ => trivial⟩

theorem orderly_of_run? (hcontract : Contract gate ready ends) {state : σ} {events : List Event}
    (hrun : run? gate { state } events = some crowd) : crowd.Orderly gate ready ends :=
  run?_induction (fun crowd _ => crowd.Orderly gate ready ends) (orderly_start state)
    (fun h hstep => h.move hcontract (move_of_step? hstep)) hrun

/-- What a step does to the state, by its deed: only the end of a stage changes it, as agreed. -/
def Changes (ready : σ → Prop) (ends : σ → σ × Option (Except Failure α) → Prop)
    (before after : σ) : Option (Deed α) → Prop
  | some (.made _ value) => ready before ∧ ends before (after, some (.ok value))
  | some (.failed _ failure) => ready before ∧ ends before (after, some (.error failure))
  | some _ => after = before
  | none => after = before ∨ ready before ∧ ends before (after, none)

theorem Orderly.changes (h : crowd.Orderly gate ready ends)
    (hmove : Move gate crowd event deed next) :
    Changes ready ends crowd.state next.state deed := by
  have hkeeps {caller : Nat} {result : σ × Option (Except Failure α)} {rest : List (Stage σ α)}
      (hphase : crowd.phase caller = .working (.done result) rest) :
      ready crowd.state ∧ ends crowd.state result := by
    have hcaller := h.keeps caller
    rw [hphase] at hcaller
    exact ⟨hcaller.1, hcaller.2.1⟩
  cases hmove with
  | makes hphase | fails hphase => exact hkeeps hphase
  | goesOn hphase => exact .inr (hkeeps hphase)
  | drops => exact (state_place _ _ _).trans (state_release _ _)
  | leaves | goes => exact .inl ((state_place _ _ _).trans (state_release _ _))
  | finds | findsAgain | begins => rfl
  | waits | enters | asks => exact .inl rfl

end Crowd

end ControlPlane.Gate
