import ControlPlane.Gate
import ControlPlane.Proofs.Program.Coupled

/-!
# Gates side by side

Two gates whose looks, stages and ends are coupled give coupled calls. A pair of states without a
value is open to making one; each stage either leaves the pair open or ends the work in both runs,
with outcomes of one kind or with two errors.
-/

namespace ControlPlane.Gate

open Program

variable {σ α : Type} {alike opened : σ → σ → Prop} {related : α → α → Prop}

/-- States that calls leave, with what they told. -/
def LeavesAlike (alike : σ → σ → Prop) (related : α → α → Prop)
    (left twin : σ × Except Failure α) : Prop :=
  alike left.1 twin.1 ∧ SameOutcome related left.2 twin.2

/-- How a stage passes in both runs. -/
inductive PassesAlike (alike opened : σ → σ → Prop) (related : α → α → Prop) :
    σ × Option (Except Failure α) → σ × Option (Except Failure α) → Prop where
  | goesOn {state twin : σ} (h : opened state twin) :
      PassesAlike alike opened related (state, none) (twin, none)
  | ends {state twin : σ} {outcome other : Except Failure α} (h : alike state twin)
      (houtcome : SameOutcome related outcome other) :
      PassesAlike alike opened related (state, some outcome) (twin, some other)

/-- A stage ends with two errors. -/
inductive PassesApart :
    σ × Option (Except Failure α) → σ × Option (Except Failure α) → Prop where
  | mk {state twin : σ} {outcome other : Except Failure α} (h : ErrorsApart outcome other) :
      PassesApart (state, some outcome) (twin, some other)

variable [Wording]

def StagesAlike (alike opened : σ → σ → Prop) (related : α → α → Prop)
    (stage twin : Stage σ α) : Prop :=
  ∀ state other, opened state other →
    Coupled (PassesAlike alike opened related) PassesApart (stage state) (twin other)

structure Alike (gate twin : Gate σ α) (alike opened : σ → σ → Prop) (related : α → α → Prop) :
    Prop where
  look (state other : σ) (h : alike state other) :
    InStep
      (fun found reply => Option.Rel related found reply ∧ (found = none → opened state other))
      (gate.look state) (twin.look other)
  stages : List.Forall₂ (StagesAlike alike opened related) gate.stages twin.stages
  last (state other : σ) (h : opened state other) :
    Coupled (LeavesAlike alike related) TellApart (gate.last state) (twin.last other)

variable {gate twin : Gate σ α} {state other : σ}

theorem Alike.work {stages others : List (Stage σ α)} (h : gate.Alike twin alike opened related)
    (hstages : List.Forall₂ (StagesAlike alike opened related) stages others)
    (hopened : opened state other) :
    Coupled (LeavesAlike alike related) TellApart (gate.work stages state)
      (twin.work others other) := by
  induction hstages generalizing state other with
  | nil => exact h.last state other hopened
  | cons hstage _ ih =>
      refine (hstage state other hopened).bind ?_ ?_
      · rintro _ _ (hopen | ⟨halike, houtcome⟩)
        · exact ih hopen
        · exact .done ⟨halike, houtcome⟩
      · rintro _ _ ⟨houtcome⟩
        exact apart_done houtcome

/-- Calls at gates that are alike, from states that are. -/
theorem Alike.get (h : gate.Alike twin alike opened related) (halike : alike state other) :
    Coupled (LeavesAlike alike related) TellApart (gate.get state) (twin.get other) := by
  refine (h.look state other halike).bind ?_
  rintro _ _ ⟨hfound | _, -⟩
  · exact .done ⟨halike, .ok hfound⟩
  · refine (h.look state other halike).bind ?_
    rintro _ _ ⟨hfound | _, hopened⟩
    · exact .done ⟨halike, .ok hfound⟩
    · exact h.work h.stages (hopened rfl)

end ControlPlane.Gate
