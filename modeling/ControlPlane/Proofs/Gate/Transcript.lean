import ControlPlane.Proofs.Gate.Guard
import ControlPlane.Proofs.Program.Runs

/-!
# What callers ask while they make a value

The transcript of a crowd lists the questions of all stages in the order in which they were asked,
whoever asked them, with their answers. Whoever makes a value is on the way through one stage from
the shared state as it stands, and what that stage has asked so far ends the transcript: nobody else
asks meanwhile.

**Stages that keep a property** (`property_of_run?`). So a property of state and transcript that
every whole run of a stage keeps holds after all steps of all callers, also if some of them went away
on the way: what they had asked stays in the transcript, and the state is as it was.
-/

namespace ControlPlane

/-- After this part of a run the program goes on as `current`. -/
def Program.GoesOn {α : Type} (program : Program α) (part : List Asked) (current : Program α) :
    Prop :=
  ∀ trace result, current.Runs trace result → program.Runs (part ++ trace) result

theorem Program.GoesOn.answer {α : Type} {program : Program α} {part : List Asked} {query : Query}
    {resume : query.Answer → Program α} (h : program.GoesOn part (.ask query resume))
    (answer : query.Answer) : program.GoesOn (part ++ [⟨query, answer⟩]) (resume answer) := by
  intro trace result hlater
  rw [← List.append_cons]
  exact h _ result (.ask answer hlater)

namespace Gate

variable {σ α : Type} {gate : Gate σ α} {ready : σ → Prop}
  {ends : σ → σ × Option (Except Failure α) → Prop} {crowd next : Crowd σ α} {event : Event}
  {deed : Option (Deed α)} {past : List Asked}

def Crowd.asked? (crowd : Crowd σ α) : Event → Option Asked
  | .advance caller answers =>
    match crowd.phase caller with
    | .working (.ask query _) _ => some ⟨query, answers query⟩
    | _ => none
  | _ => none

/-- All questions of stages in a run, in the order in which they were asked. -/
def Crowd.transcript (gate : Gate σ α) (crowd : Crowd σ α) (events : List Event) : List Asked :=
  record gate (fun crowd event => (asked? crowd event).toList) crowd events

/-- Whoever makes a value is in one of the stages, which was the last to ask. -/
def Phase.Traced (gate : Gate σ α) (past : List Asked) (state : σ) : Phase σ α → Prop
  | .working current _ =>
    ∃ stage ∈ gate.lastStage :: gate.stages, ∃ part, part <:+ past ∧
      (stage state).GoesOn part current
  | _ => True

theorem Phase.traced_of_not_isWorking {phase : Phase σ α} (h : ¬ phase.IsWorking) (state : σ) :
    phase.Traced gate past state := by
  cases phase with
  | working current rest => exact absurd trivial h
  | _ => trivial

theorem traced_beginStage (state : σ) {stages : List (Stage σ α)}
    (hstages : ∀ stage ∈ stages, stage ∈ gate.stages) :
    (beginStage gate state stages).Traced gate past state := by
  have hgoes (stage : Stage σ α) : (stage state).GoesOn [] (stage state) :=
    fun trace result hrun => hrun
  cases stages with
  | nil => exact ⟨_, List.mem_cons_self .., [], List.nil_suffix, hgoes _⟩
  | cons stage rest =>
      have hstage := List.mem_cons_of_mem gate.lastStage (hstages stage (List.mem_cons_self ..))
      exact ⟨stage, hstage, [], List.nil_suffix, hgoes stage⟩

/-- A property of state and transcript that every whole run of a stage keeps. -/
structure Kept (gate : Gate σ α) (ready : σ → Prop) (property : σ → List Asked → Prop) : Prop where
  mono {state : σ} {past more : List Asked} : property state past → past <+: more →
    property state more
  stage {state : σ} {past part : List Asked} {result : σ × Option (Except Failure α)} :
    ready state → property state past → part <:+ past →
      ∀ stage ∈ gate.lastStage :: gate.stages, (stage state).Runs part result →
        property result.1 past

namespace Crowd

variable {property : σ → List Asked → Prop}

/-- An orderly crowd whose state has the property, and whose transcript is complete. -/
structure Recorded (gate : Gate σ α) (ready : σ → Prop)
    (ends : σ → σ × Option (Except Failure α) → Prop) (property : σ → List Asked → Prop)
    (crowd : Crowd σ α) (past : List Asked) : Prop where
  orderly : crowd.Orderly gate ready ends
  holds : property crowd.state past
  traced (caller : Nat) : (crowd.phase caller).Traced gate past crowd.state

/-- Whoever makes no value changes neither the state nor the transcript. -/
theorem Recorded.place (h : crowd.Recorded gate ready ends property past) {changed : Crowd σ α}
    {caller : Nat} {phase : Phase σ α} {more : List Asked}
    (horderly : (changed.place caller phase).Orderly gate ready ends)
    (hholds : property changed.state more) (hphases : changed.phase = crowd.phase)
    (hsame : ¬ (crowd.phase caller).IsWorking → changed.state = crowd.state ∧ more = past)
    (hphase : phase.Traced gate more changed.state) :
    (changed.place caller phase).Recorded gate ready ends property more where
  orderly := horderly
  holds := hholds
  traced other := by
    rw [phase_place, state_place, hphases]
    split
    · exact hphase
    · next hne =>
        -- The transcript grows only while the mover works, and then the others have no stage.
        by_cases hworking : (crowd.phase caller).IsWorking
        · refine Phase.traced_of_not_isWorking (fun hother => hne ?_) _
          exact h.orderly.guarded.unique hother.holdsGuard hworking.holdsGuard
        · obtain ⟨hstate, rfl⟩ := hsame hworking
          rw [hstate]
          exact h.traced other

/-- A stage that has ended was run in full, and the property holds of what it left. -/
theorem Recorded.holds_of_done (h : crowd.Recorded gate ready ends property past)
    (hkept : Kept gate ready property) {caller : Nat}
    {result : σ × Option (Except Failure α)} {rest : List (Stage σ α)}
    (hphase : crowd.phase caller = .working (.done result) rest) : property result.1 past := by
  have htraced := h.traced caller
  rw [hphase] at htraced
  obtain ⟨stage, hstage, part, hpart, hgoes⟩ := htraced
  have hrun : (stage crowd.state).Runs part result := by
    simpa using hgoes [] result (.done result)
  have hready := h.orderly.ready_of_isWorking (Phase.isWorking_of_eq hphase)
  exact hkept.stage hready h.holds hpart stage hstage hrun

theorem Recorded.move (h : crowd.Recorded gate ready ends property past)
    (hcontract : Contract gate ready ends) (hkept : Kept gate ready property)
    (hmove : Move gate crowd event deed next) :
    next.Recorded gate ready ends property (past ++ (crowd.asked? event).toList) := by
  have horderly := h.orderly.move hcontract hmove
  have hmore : past <+: past ++ (crowd.asked? event).toList := List.prefix_append _ _
  have hholds := hkept.mono h.holds hmore
  cases hmove with
  | finds | waits | enters | findsAgain =>
      exact h.place horderly hholds rfl (fun _ => ⟨rfl, List.append_nil past⟩) trivial
  | begins =>
      exact h.place horderly hholds rfl (fun _ => ⟨rfl, List.append_nil past⟩)
        (traced_beginStage _ fun _ => id)
  | @asks caller answers query resume rest hphase =>
      have htraced := h.traced caller
      rw [hphase] at htraced
      obtain ⟨stage, hstage, part, ⟨before, rfl⟩, hgoes⟩ := htraced
      refine h.place horderly hholds rfl (absurd (Phase.isWorking_of_eq hphase)) ?_
      have hasked : crowd.asked? (.advance caller answers) = some ⟨query, answers query⟩ := by
        simp [asked?, hphase]
      rw [hasked]
      refine ⟨stage, hstage, part ++ [⟨query, answers query⟩], ⟨before, ?_⟩, hgoes.answer _⟩
      rw [List.append_assoc]
      rfl
  | @goesOn caller answers state rest hphase =>
      have hdone := hkept.mono (h.holds_of_done hkept hphase) hmore
      have hrest : ∀ stage ∈ rest, stage ∈ gate.stages := by
        have hkeeps := h.orderly.keeps caller
        rw [hphase] at hkeeps
        exact hkeeps.2.2
      exact h.place horderly hdone rfl (absurd (Phase.isWorking_of_eq hphase))
        (traced_beginStage _ hrest)
  | makes hphase | fails hphase =>
      have hdone := hkept.mono (h.holds_of_done hkept hphase) hmore
      exact h.place horderly hdone rfl (absurd (Phase.isWorking_of_eq hphase)) trivial
  | leaves | drops | goes =>
      refine h.place horderly ?_ (phase_release _ _)
        (fun _ => ⟨state_release _ _, List.append_nil past⟩) trivial
      rwa [state_release]

/-- **Stages that keep a property.** -/
theorem property_of_run? (hcontract : Contract gate ready ends) (hkept : Kept gate ready property)
    {state : σ} (hstart : property state []) {events : List Event}
    (hrun : run? gate { state } events = some crowd) :
    property crowd.state (transcript gate { state } events) := by
  have hrecorded := run?_record_induction (Recorded gate ready ends property)
    ⟨orderly_start state, hstart, fun _ => trivial⟩
    (fun h hstep => h.move hcontract hkept (move_of_step? hstep)) hrun
  exact hrecorded.holds

end Crowd

end Gate

end ControlPlane
