import Mathlib.Logic.Function.Basic
import ControlPlane.Proofs.Gate.Alone
import ControlPlane.Proofs.Program.Runs

/-!
# What callers bring about

Callers at a gate reach what steps of theirs lead to, also if some of them go away on the way. A
caller who is alone there can bring about whatever a run of `Gate.get` comes to: what the program of
one call can do, the crowd can do.
-/

namespace ControlPlane

open Program

theorem Answers.exists_answer (query : Query) (answer : query.Answer) :
    ∃ answers : Answers, answers query = answer := by
  classical
  exact ⟨Function.update Answers.bare query answer, Function.update_self ..⟩

namespace Gate

variable {σ α : Type} {gate : Gate σ α} {start crowd next last : Crowd σ α} {event : Event}

def Event.caller : Event → Nat
  | .look caller _ | .enter caller | .lookAgain caller _ | .advance caller _ | .leave caller
  | .goAway caller => caller

namespace Crowd

/-- A caller goes away unless it has its outcome. -/
def withdraw (crowd : Crowd σ α) (caller : Nat) : Crowd σ α :=
  match crowd.phase caller with
  | .finished _ | .gone => crowd
  | _ => (crowd.release caller).place caller .gone

theorem withdraw_eq (gate : Gate σ α) (crowd : Crowd σ α) (caller : Nat) :
    crowd.withdraw caller = crowd ∨
      step? gate crowd (.goAway caller) = some (crowd.withdraw caller) := by
  unfold withdraw step?
  split
  · exact .inl rfl
  · exact .inl rfl
  · next hfinished hgone =>
      right
      dsimp only
      split
      · next hphase => exact absurd hphase (hfinished _)
      · next hphase => exact absurd hphase hgone
      · rfl

@[simp]
theorem state_withdraw (crowd : Crowd σ α) (caller : Nat) :
    (crowd.withdraw caller).state = crowd.state := by
  unfold withdraw
  split
  · rfl
  · rfl
  · rw [state_place, state_release]

theorem finished_withdraw {caller : Nat} {outcome : Except Failure α}
    (h : crowd.phase caller = .finished outcome) (leaving : Nat) :
    (crowd.withdraw leaving).phase caller = .finished outcome := by
  unfold withdraw
  split
  · exact h
  · exact h
  · next hfinished hgone =>
      rw [phase_place, phase_release]
      split
      · next heq => exact absurd (heq ▸ h) (hfinished outcome)
      · exact h

/-- An outcome that a caller was told stays what it was told. -/
theorem finished_of_step? (hstep : step? gate crowd event = some next) {caller : Nat}
    {outcome : Except Failure α} (h : crowd.phase caller = .finished outcome) :
    next.phase caller = .finished outcome := by
  have hmove := move_of_step? hstep
  generalize deed? gate crowd event = deed at hmove
  cases hmove with
  | goes hphase houtcome =>
      rw [phase_place, phase_release]
      split
      · next heq => exact absurd (heq ▸ h) (houtcome outcome)
      · exact h
  | drops hphase =>
      rw [phase_place, phase_release]
      split
      · next heq => simp [← heq, h, Phase.IsWorking] at hphase
      · exact h
  | leaves hphase =>
      rw [phase_place, phase_release]
      split
      · next heq => simp [← heq, h] at hphase
      · exact h
  | finds hphase | waits hphase | enters hphase | findsAgain hphase | begins hphase | asks hphase
  | goesOn hphase | makes hphase | fails hphase =>
      rw [phase_place]
      split
      · next heq => simp [← heq, h] at hphase
      · exact h

/-! ### What all callers bring about -/

def Reaches (gate : Gate σ α) (start crowd : Crowd σ α) : Prop :=
  ∃ events, run? gate start events = some crowd

theorem Reaches.step {event : Event} (h : Reaches gate start crowd)
    (hstep : step? gate crowd event = some next) : Reaches gate start next := by
  obtain ⟨events, hrun⟩ := h
  refine ⟨events ++ [event], ?_⟩
  induction events generalizing start with
  | nil =>
      obtain rfl := Option.some.inj hrun
      rw [List.nil_append, run?_cons, hstep]
      rfl
  | cons first rest ih =>
      rw [run?_cons, Option.bind_eq_some_iff] at hrun
      obtain ⟨middle, hmiddle, hrest⟩ := hrun
      rw [List.cons_append, run?_cons, hmiddle]
      exact ih hrest

theorem Reaches.withdraw (h : Reaches gate start crowd) (caller : Nat) :
    Reaches gate start (crowd.withdraw caller) := by
  rcases withdraw_eq gate crowd caller with hsame | hstep
  · rwa [hsame]
  · exact h.step hstep

/-! ### What one caller brings about -/

section Brings

variable {caller : Nat} {trace : List Asked}

/-- One caller can bring this about while nobody else moves. -/
def Brings (gate : Gate σ α) (caller : Nat) (crowd last : Crowd σ α) : Prop :=
  ∃ events : List Event, (∀ event ∈ events, event.caller = caller) ∧
    run? gate crowd events = some last

theorem Brings.refl (crowd : Crowd σ α) : Brings gate caller crowd crowd :=
  ⟨[], by simp, rfl⟩

theorem Brings.step {event : Event} (hstep : step? gate crowd event = some next)
    (hcaller : event.caller = caller) (h : Brings gate caller next last) :
    Brings gate caller crowd last := by
  obtain ⟨events, hevents, hrun⟩ := h
  exact ⟨event :: events, List.forall_mem_cons.mpr ⟨hcaller, hevents⟩,
    by rw [run?_cons, hstep, Option.bind_some, hrun]⟩

theorem Brings.trans (h : Brings gate caller crowd next) (hnext : Brings gate caller next last) :
    Brings gate caller crowd last := by
  obtain ⟨events, hevents, hrun⟩ := h
  induction events generalizing crowd with
  | nil =>
      obtain rfl := Option.some.inj hrun
      exact hnext
  | cons event rest ih =>
      rw [run?_cons, Option.bind_eq_some_iff] at hrun
      obtain ⟨middle, hmiddle, hrest⟩ := hrun
      obtain ⟨hcaller, hcallers⟩ := List.forall_mem_cons.mp hevents
      exact .step hmiddle hcaller (ih hcallers hrest)

theorem brings_end {current : Program (σ × Option (Except Failure α))}
    {result : σ × Option (Except Failure α)} {rest : List (Stage σ α)}
    (hruns : current.Runs trace result) (hphase : crowd.phase caller = .working current rest) :
    Brings gate caller crowd (endStage gate crowd caller rest result) := by
  induction hruns generalizing crowd with
  | done result =>
      have hstep : step? gate crowd (.advance caller .bare) = _ := step?_end hphase
      exact .step hstep rfl (.refl _)
  | @ask query resume later result answer hlater ih =>
      obtain ⟨answers, rfl⟩ := Answers.exists_answer query answer
      have hend := ih (phase_place_self crowd caller (.working (resume (answers query)) rest))
      rw [endStage_place] at hend
      exact .step (step?_ask hphase) rfl hend

theorem brings_work {stages : List (Stage σ α)} {state : σ} {outcome : Except Failure α}
    (hruns : (gate.work stages crowd.state).Runs trace (state, outcome))
    (hphase : crowd.phase caller = beginStage gate crowd.state stages) :
    Brings gate caller crowd ({ crowd with state }.place caller (.leaving outcome)) := by
  induction stages generalizing crowd trace with
  | nil =>
      have hlast : (gate.lastStage crowd.state).Runs (trace ++ []) (state, some outcome) :=
        runs_bind_iff.mpr ⟨trace, _, [], rfl, hruns, .done _⟩
      exact brings_end hlast hphase
  | cons stage rest ih =>
      obtain ⟨first, ⟨middle, told⟩, second, rfl, hstage, hrest⟩ := runs_bind_iff.mp hruns
      have hend : Brings gate caller crowd (endStage gate crowd caller rest (middle, told)) :=
        brings_end hstage hphase
      cases told with
      | some told =>
          obtain ⟨-, heq⟩ := runs_done_iff.mp hrest
          obtain ⟨rfl, rfl⟩ := Prod.mk.inj heq
          exact hend
      | none =>
          have hwork : Brings gate caller ({ crowd with state := middle }.place caller
              (beginStage gate middle rest)) _ := ih hrest (phase_place_self ..)
          rw [place_state_place] at hwork
          exact hend.trans hwork

theorem step?_findAgain {answers : Answers} {value : α} (hphase : crowd.phase caller = .holding)
    (hlook : (gate.look crowd.state).answerAll answers = some value) :
    step? gate crowd (.lookAgain caller answers) =
      some (crowd.place caller (.leaving (.ok value))) := by
  simp [step?, hphase, hlook]

theorem brings_leave {outcome : Except Failure α} (hphase : crowd.phase caller = .leaving outcome) :
    ∃ last, Brings gate caller crowd last ∧ last.phase caller = .finished outcome ∧
      last.state = crowd.state :=
  ⟨_, .step (step?_leave hphase) rfl (.refl _), phase_place_self .., by
    rw [state_place, state_release]⟩

/-- What a call at a gate can come to, a caller there can bring about. -/
theorem brings_get {state later : σ} {outcome : Except Failure α}
    (hlook : ∀ {trace found}, (gate.look state).Runs trace found →
      ∃ answers, (gate.look state).answerAll answers = found)
    (hruns : (gate.get state).Runs trace (later, outcome)) (caller : Nat) :
    ∃ last, Brings gate caller { state } last ∧ last.phase caller = .finished outcome ∧
      last.state = later := by
  obtain ⟨first, found, second, rfl, hfirst, hruns⟩ := runs_bind_iff.mp hruns
  obtain ⟨answers, hfound⟩ := hlook hfirst
  cases found with
  | some value =>
      obtain ⟨-, heq⟩ := runs_done_iff.mp hruns
      obtain ⟨rfl, rfl⟩ := Prod.mk.inj heq
      exact ⟨_, .step (step?_find rfl hfound) rfl (.refl _), phase_place_self .., rfl⟩
  | none =>
      obtain ⟨again, found, work, rfl, hagain, hwork⟩ := runs_bind_iff.mp hruns
      obtain ⟨others, hother⟩ := hlook hagain
      have henter : Brings gate caller { state } _ :=
        .step (step?_wait rfl hfound) rfl <|
          .step (step?_enter (phase_place_self ..) rfl) rfl (.refl _)
      cases found with
      | some value =>
          obtain ⟨-, heq⟩ := runs_done_iff.mp hwork
          obtain ⟨rfl, rfl⟩ := Prod.mk.inj heq
          have hfind := henter.trans
            (.step (step?_findAgain (phase_place_self ..) hother) rfl (.refl _))
          obtain ⟨last, hlast, htold, hstate⟩ := brings_leave (phase_place_self ..)
          exact ⟨last, hfind.trans hlast, htold, hstate⟩
      | none =>
          have hbegin := henter.trans
            (.step (step?_begin (phase_place_self ..) hother) rfl (.refl _))
          have hmake := hbegin.trans (brings_work hwork (phase_place_self ..))
          obtain ⟨last, hlast, htold, hstate⟩ := brings_leave (phase_place_self ..)
          exact ⟨last, hmake.trans hlast, htold, hstate⟩

end Brings

end Crowd

end Gate

end ControlPlane
