import ControlPlane.Proofs.Gate.Guard

/-!
# A caller whom nobody disturbs

The steps of one caller, taken one after the other while nobody else moves, come to what `Gate.get`
comes to: the crowd and the program say the same of a gate.
-/

namespace ControlPlane.Gate

variable {σ α : Type} {gate : Gate σ α} {crowd next last : Crowd σ α} {caller : Nat}
  {answers : Answers}

/-- The steps of a caller who stays, under these answers. -/
inductive Event.IsOf (caller : Nat) (answers : Answers) : Event → Prop where
  | look : IsOf caller answers (.look caller answers)
  | enter : IsOf caller answers (.enter caller)
  | lookAgain : IsOf caller answers (.lookAgain caller answers)
  | advance : IsOf caller answers (.advance caller answers)
  | leave : IsOf caller answers (.leave caller)

namespace Crowd

def Leads (gate : Gate σ α) (caller : Nat) (answers : Answers) (crowd last : Crowd σ α) : Prop :=
  ∃ events : List Event, (∀ event ∈ events, event.IsOf caller answers) ∧
    run? gate crowd events = some last

theorem Leads.refl (crowd : Crowd σ α) : Leads gate caller answers crowd crowd :=
  ⟨[], by simp, rfl⟩

theorem Leads.step {event : Event} (hevent : event.IsOf caller answers)
    (hstep : step? gate crowd event = some next) (h : Leads gate caller answers next last) :
    Leads gate caller answers crowd last := by
  obtain ⟨events, hevents, hrun⟩ := h
  exact ⟨event :: events, List.forall_mem_cons.mpr ⟨hevent, hevents⟩,
    by rw [run?_cons, hstep, Option.bind_some, hrun]⟩

theorem Leads.trans (h : Leads gate caller answers crowd next)
    (hnext : Leads gate caller answers next last) : Leads gate caller answers crowd last := by
  obtain ⟨events, hevents, hrun⟩ := h
  induction events generalizing crowd with
  | nil =>
      obtain rfl := Option.some.inj hrun
      exact hnext
  | cons event rest ih =>
      rw [run?_cons, Option.bind_eq_some_iff] at hrun
      obtain ⟨middle, hmiddle, hrest⟩ := hrun
      rw [List.forall_mem_cons] at hevents
      exact .step hevents.1 hmiddle (ih hevents.2 hrest)

theorem place_phase (crowd : Crowd σ α) (caller : Nat) :
    crowd.place caller (crowd.phase caller) = crowd := by
  obtain ⟨state, holder, phase⟩ := crowd
  simp only [place]
  congr
  funext other
  split <;> simp_all

theorem place_place (crowd : Crowd σ α) (caller : Nat) (first second : Phase σ α) :
    (crowd.place caller first).place caller second = crowd.place caller second := by
  simp only [place]
  congr
  funext other
  split <;> rfl

theorem place_state_place (crowd : Crowd σ α) (state : σ) (caller : Nat)
    (first second : Phase σ α) :
    { crowd.place caller first with state }.place caller second =
      { crowd with state }.place caller second :=
  place_place { crowd with state } caller first second

theorem step?_find {value : α} (hphase : crowd.phase caller = .arriving)
    (hlook : (gate.look crowd.state).answerAll answers = some value) :
    step? gate crowd (.look caller answers) =
      some (crowd.place caller (.finished (.ok value))) := by
  simp [step?, hphase, hlook]

theorem step?_wait (hphase : crowd.phase caller = .arriving)
    (hlook : (gate.look crowd.state).answerAll answers = none) :
    step? gate crowd (.look caller answers) = some (crowd.place caller .waiting) := by
  simp [step?, hphase, hlook]

theorem step?_end {result : σ × Option (Except Failure α)} {rest : List (Stage σ α)}
    (hphase : crowd.phase caller = .working (.done result) rest) :
    step? gate crowd (.advance caller answers) = some (endStage gate crowd caller rest result) := by
  simp [step?, hphase]

theorem step?_ask {query : Query} {resume : query.Answer → Program (σ × Option (Except Failure α))}
    {rest : List (Stage σ α)} (hphase : crowd.phase caller = .working (.ask query resume) rest) :
    step? gate crowd (.advance caller answers) =
      some (crowd.place caller (.working (resume (answers query)) rest)) := by
  simp [step?, hphase]

theorem leads_stage {current : Program (σ × Option (Except Failure α))}
    {rest : List (Stage σ α)} (hphase : crowd.phase caller = .working current rest) :
    Leads gate caller answers crowd
      (crowd.place caller (.working (.done (current.answerAll answers)) rest)) := by
  induction current generalizing crowd with
  | done result =>
      rw [Program.answerAll_done, ← hphase, place_phase]
      exact .refl crowd
  | ask query resume ih =>
      refine .step .advance (step?_ask hphase) ?_
      have hresume := ih (answers query)
        (phase_place_self crowd caller (.working (resume (answers query)) rest))
      rwa [place_place] at hresume

theorem endStage_place (crowd : Crowd σ α) (caller : Nat) (phase : Phase σ α)
    (rest : List (Stage σ α)) (result : σ × Option (Except Failure α)) :
    endStage gate (crowd.place caller phase) caller rest result =
      endStage gate crowd caller rest result := by
  obtain ⟨state, _ | outcome⟩ := result <;> exact place_state_place crowd state caller phase _

theorem leads_end {current : Program (σ × Option (Except Failure α))}
    {rest : List (Stage σ α)} (hphase : crowd.phase caller = .working current rest) :
    Leads gate caller answers crowd
      (endStage gate crowd caller rest (current.answerAll answers)) := by
  refine (leads_stage hphase).trans (.step .advance (step?_end (phase_place_self _ _ _)) ?_)
  rw [endStage_place]
  exact .refl _

theorem leads_work {stages : List (Stage σ α)}
    (hphase : crowd.phase caller = beginStage gate crowd.state stages) :
    Leads gate caller answers crowd
      ({ crowd with state := ((gate.work stages crowd.state).answerAll answers).1 }.place caller
        (.leaving ((gate.work stages crowd.state).answerAll answers).2)) := by
  induction stages generalizing crowd with
  | nil =>
      refine (leads_end hphase).trans ?_
      rw [lastStage, Program.answerAll_bind]
      exact .refl _
  | cons stage rest ih =>
      refine (leads_end hphase).trans ?_
      rw [work, Program.answerAll_bind]
      rcases (stage crowd.state).answerAll answers with ⟨state, _ | outcome⟩
      · have hrest := ih (phase_place_self { crowd with state } caller (beginStage gate state rest))
        rwa [place_state_place] at hrest
      · exact .refl _

end Crowd

open Crowd

/-- **The crowd agrees with the program.** A caller who is alone at a gate can take steps to what the
program of one call comes to under the same answers. -/
theorem leads_get (gate : Gate σ α) (state : σ) (caller : Nat) (answers : Answers) :
    ∃ last, Leads gate caller answers { state } last ∧
      last.phase caller = .finished ((gate.get state).answerAll answers).2 ∧
      last.state = ((gate.get state).answerAll answers).1 := by
  rw [get, Program.answerAll_bind]
  cases hlook : (gate.look state).answerAll answers with
  | some value =>
      refine ⟨_, .step .look (step?_find rfl hlook) (.refl _), phase_place_self _ _ _, rfl⟩
  | none =>
      simp only [Program.answerAll_bind, hlook]
      -- The second look finds no more than the first, since nobody else moves.
      have hbegin : Leads gate caller answers { state } _ :=
        .step .look (step?_wait rfl hlook) <|
          .step .enter (step?_enter (phase_place_self _ _ _) rfl) <|
          .step .lookAgain (step?_begin (phase_place_self _ _ _) hlook) (.refl _)
      have hwork := hbegin.trans (leads_work (phase_place_self _ _ _))
      have hleave := hwork.trans (.step .leave (step?_leave (phase_place_self _ _ _)) (.refl _))
      refine ⟨_, hleave, phase_place_self _ _ _, ?_⟩
      rw [state_place, state_release]
      rfl

end ControlPlane.Gate
