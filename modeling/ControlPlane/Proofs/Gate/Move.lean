import ControlPlane.Gate.Interleaving

/-!
# The moves of a crowd

`Move` says everything that one step can do, with what has to hold for it, and what it means for the
value behind the gate: the deed. The deeds of a run, in order, are its history. `run?_induction`
carries a property of crowd and history from step to step.
-/

namespace ControlPlane.Gate

variable {σ α : Type}

/-- What a step does about the value. -/
inductive Deed (α : Type) where
  /-- A caller takes a value that is there, under these answers. -/
  | found (caller : Nat) (value : α) (answers : Answers)
  /-- A caller finds none under the guard and begins to make one. -/
  | began (caller : Nat) (answers : Answers)
  | made (caller : Nat) (value : α)
  | failed (caller : Nat) (failure : Failure)
  /-- A caller goes away in the middle of making a value. -/
  | dropped (caller : Nat)

def Deed.isMade : Deed α → Bool
  | .made _ _ => true
  | _ => false

namespace Phase

def HoldsGuard : Phase σ α → Prop
  | .holding | .working _ _ | .leaving _ => True
  | _ => False

def IsWorking : Phase σ α → Prop
  | .working _ _ => True
  | _ => False

/-- The outcome that a caller is about to be told, or was told. -/
def outcome? : Phase σ α → Option (Except Failure α)
  | .leaving outcome | .finished outcome => some outcome
  | _ => none

theorem isWorking_of_eq {phase : Phase σ α} {current : Program (σ × Option (Except Failure α))}
    {rest : List (Stage σ α)} (h : phase = .working current rest) : phase.IsWorking :=
  h ▸ trivial

theorem IsWorking.holdsGuard {phase : Phase σ α} (h : phase.IsWorking) : phase.HoldsGuard := by
  cases phase <;> simp_all [IsWorking, HoldsGuard]

end Phase

namespace Crowd

def deed? (gate : Gate σ α) (crowd : Crowd σ α) : Event → Option (Deed α)
  | .look caller answers =>
    match crowd.phase caller with
    | .arriving =>
      ((gate.look crowd.state).answerAll answers).map fun value => .found caller value answers
    | _ => none
  | .lookAgain caller answers =>
    match crowd.phase caller with
    | .holding =>
      match (gate.look crowd.state).answerAll answers with
      | some value => some (.found caller value answers)
      | none => some (.began caller answers)
    | _ => none
  | .advance caller _ =>
    match crowd.phase caller with
    | .working (.done (_, some (.ok value))) _ => some (.made caller value)
    | .working (.done (_, some (.error failure))) _ => some (.failed caller failure)
    | _ => none
  | .goAway caller =>
    match crowd.phase caller with
    | .working _ _ => some (.dropped caller)
    | _ => none
  | _ => none

def history (gate : Gate σ α) (crowd : Crowd σ α) : List Event → List (Deed α)
  | [] => []
  | event :: rest =>
    match step? gate crowd event with
    | none => []
    | some next => (deed? gate crowd event).toList ++ history gate next rest

/-- Everything that one step can do. -/
inductive Move (gate : Gate σ α) (crowd : Crowd σ α) :
    Event → Option (Deed α) → Crowd σ α → Prop where
  | finds {caller : Nat} {answers : Answers} {value : α}
      (hphase : crowd.phase caller = .arriving)
      (hlook : (gate.look crowd.state).answerAll answers = some value) :
      Move gate crowd (.look caller answers) (some (.found caller value answers))
        (crowd.place caller (.finished (.ok value)))
  | waits {caller : Nat} {answers : Answers}
      (hphase : crowd.phase caller = .arriving)
      (hlook : (gate.look crowd.state).answerAll answers = none) :
      Move gate crowd (.look caller answers) none (crowd.place caller .waiting)
  | enters {caller : Nat} (hphase : crowd.phase caller = .waiting) (hfree : crowd.holder = none) :
      Move gate crowd (.enter caller) none
        ({ crowd with holder := some caller }.place caller .holding)
  | findsAgain {caller : Nat} {answers : Answers} {value : α}
      (hphase : crowd.phase caller = .holding)
      (hlook : (gate.look crowd.state).answerAll answers = some value) :
      Move gate crowd (.lookAgain caller answers) (some (.found caller value answers))
        (crowd.place caller (.leaving (.ok value)))
  | begins {caller : Nat} {answers : Answers}
      (hphase : crowd.phase caller = .holding)
      (hlook : (gate.look crowd.state).answerAll answers = none) :
      Move gate crowd (.lookAgain caller answers) (some (.began caller answers))
        (crowd.place caller (beginStage gate crowd.state gate.stages))
  | asks {caller : Nat} {answers : Answers} {query : Query}
      {resume : query.Answer → Program (σ × Option (Except Failure α))} {rest : List (Stage σ α)}
      (hphase : crowd.phase caller = .working (.ask query resume) rest) :
      Move gate crowd (.advance caller answers) none
        (crowd.place caller (.working (resume (answers query)) rest))
  | goesOn {caller : Nat} {answers : Answers} {state : σ} {rest : List (Stage σ α)}
      (hphase : crowd.phase caller = .working (.done (state, none)) rest) :
      Move gate crowd (.advance caller answers) none
        ({ crowd with state := state }.place caller (beginStage gate state rest))
  | makes {caller : Nat} {answers : Answers} {state : σ} {value : α} {rest : List (Stage σ α)}
      (hphase : crowd.phase caller = .working (.done (state, some (.ok value))) rest) :
      Move gate crowd (.advance caller answers) (some (.made caller value))
        ({ crowd with state := state }.place caller (.leaving (.ok value)))
  | fails {caller : Nat} {answers : Answers} {state : σ} {failure : Failure}
      {rest : List (Stage σ α)}
      (hphase : crowd.phase caller = .working (.done (state, some (.error failure))) rest) :
      Move gate crowd (.advance caller answers) (some (.failed caller failure))
        ({ crowd with state := state }.place caller (.leaving (.error failure)))
  | leaves {caller : Nat} {outcome : Except Failure α}
      (hphase : crowd.phase caller = .leaving outcome) :
      Move gate crowd (.leave caller) none
        ((crowd.release caller).place caller (.finished outcome))
  | drops {caller : Nat} (hphase : (crowd.phase caller).IsWorking) :
      Move gate crowd (.goAway caller) (some (.dropped caller))
        ((crowd.release caller).place caller .gone)
  | goes {caller : Nat} (hphase : ¬ (crowd.phase caller).IsWorking)
      (houtcome : ∀ outcome, crowd.phase caller ≠ .finished outcome) :
      Move gate crowd (.goAway caller) none ((crowd.release caller).place caller .gone)

variable {gate : Gate σ α} {crowd next : Crowd σ α} {event : Event}

theorem move_of_step? (h : step? gate crowd event = some next) :
    Move gate crowd event (deed? gate crowd event) next := by
  cases event with
  | look caller answers =>
      simp only [step?] at h
      split at h
      case h_2 => simp at h
      rename_i hphase
      split at h <;> rename_i hlook <;> obtain rfl := Option.some.inj h
      · simpa [deed?, hphase, hlook] using Move.finds hphase hlook
      · simpa [deed?, hphase, hlook] using Move.waits hphase hlook
  | enter caller =>
      simp only [step?] at h
      split at h
      case h_2 => simp at h
      rename_i hphase hfree
      obtain rfl := Option.some.inj h
      exact .enters hphase hfree
  | lookAgain caller answers =>
      simp only [step?] at h
      split at h
      case h_2 => simp at h
      rename_i hphase
      split at h <;> rename_i hlook <;> obtain rfl := Option.some.inj h
      · simpa [deed?, hphase, hlook] using Move.findsAgain hphase hlook
      · simpa [deed?, hphase, hlook] using Move.begins hphase hlook
  | advance caller answers =>
      simp only [step?] at h
      split at h
      case h_3 => simp at h
      · rename_i result rest hphase
        obtain rfl := Option.some.inj h
        obtain ⟨state, outcome⟩ := result
        match outcome with
        | none => simpa [deed?, hphase, endStage] using Move.goesOn hphase
        | some (.ok value) => simpa [deed?, hphase, endStage] using Move.makes hphase
        | some (.error failure) => simpa [deed?, hphase, endStage] using Move.fails hphase
      · rename_i query resume rest hphase
        obtain rfl := Option.some.inj h
        have hmove : Move gate crowd (.advance caller answers) none _ := .asks hphase
        simpa [deed?, hphase] using hmove
  | leave caller =>
      simp only [step?] at h
      split at h
      case h_2 => simp at h
      rename_i outcome hphase
      obtain rfl := Option.some.inj h
      exact .leaves hphase
  | goAway caller =>
      simp only [step?] at h
      cases hphase : crowd.phase caller with
      | finished outcome => simp [hphase] at h
      | gone => simp [hphase] at h
      | working current rest =>
          obtain rfl : _ = next := by simpa [hphase] using h
          have hmove : Move gate crowd (.goAway caller) _ _ := .drops (Phase.isWorking_of_eq hphase)
          simpa [deed?, hphase] using hmove
      | _ =>
          obtain rfl : _ = next := by simpa [hphase] using h
          have hmove : Move gate crowd (.goAway caller) none _ :=
            .goes (by simp [hphase, Phase.IsWorking]) (by simp [hphase])
          simpa [deed?, hphase] using hmove

/-! ### Steps that can be taken -/

theorem step?_enter {caller : Nat} (hphase : crowd.phase caller = .waiting)
    (hfree : crowd.holder = none) :
    step? gate crowd (.enter caller) =
      some ({ crowd with holder := some caller }.place caller .holding) := by
  simp [step?, hphase, hfree]

theorem step?_begin {caller : Nat} {answers : Answers} (hphase : crowd.phase caller = .holding)
    (hlook : (gate.look crowd.state).answerAll answers = none) :
    step? gate crowd (.lookAgain caller answers) =
      some (crowd.place caller (beginStage gate crowd.state gate.stages)) := by
  simp [step?, hphase, hlook]

theorem step?_leave {caller : Nat} {outcome : Except Failure α}
    (hphase : crowd.phase caller = .leaving outcome) :
    step? gate crowd (.leave caller) =
      some ((crowd.release caller).place caller (.finished outcome)) := by
  simp [step?, hphase]

/-! ### Runs -/

theorem run?_cons (events : List Event) :
    run? gate crowd (event :: events) =
      (step? gate crowd event).bind fun next => run? gate next events := rfl

theorem history_cons (hstep : step? gate crowd event = some next) (events : List Event) :
    history gate crowd (event :: events) =
      (deed? gate crowd event).toList ++ history gate next events := by
  simp [history, hstep]

/-- What is noted of each step of a run, in order. -/
def record {β : Type} (gate : Gate σ α) (note : Crowd σ α → Event → List β) (crowd : Crowd σ α) :
    List Event → List β
  | [] => []
  | event :: rest =>
    match step? gate crowd event with
    | none => []
    | some next => note crowd event ++ record gate note next rest

theorem record_cons {β : Type} (note : Crowd σ α → Event → List β)
    (hstep : step? gate crowd event = some next) (events : List Event) :
    record gate note crowd (event :: events) = note crowd event ++ record gate note next events := by
  simp [record, hstep]

theorem history_eq_record (crowd : Crowd σ α) (events : List Event) :
    history gate crowd events =
      record gate (fun crowd event => (deed? gate crowd event).toList) crowd events := by
  induction events generalizing crowd with
  | nil => rfl
  | cons event rest ih =>
      cases hstep : step? gate crowd event with
      | none => simp [history, record, hstep]
      | some next => rw [history_cons hstep, record_cons _ hstep, ih]

/-- What holds of a crowd with nothing noted and is kept by every step holds after every run. -/
theorem run?_record_induction {β : Type} {note : Crowd σ α → Event → List β}
    (property : Crowd σ α → List β → Prop) {start last : Crowd σ α} (hstart : property start [])
    (hstep : ∀ {crowd next past event}, property crowd past → step? gate crowd event = some next →
      property next (past ++ note crowd event))
    {events : List Event} (hrun : run? gate start events = some last) :
    property last (record gate note start events) := by
  suffices hpast : ∀ past, property start past →
      property last (past ++ record gate note start events) by
    simpa using hpast [] hstart
  clear hstart
  induction events generalizing start with
  | nil =>
      intro past hnow
      obtain rfl := Option.some.inj hrun
      simpa [record] using hnow
  | cons event rest ih =>
      intro past hnow
      rw [run?_cons, Option.bind_eq_some_iff] at hrun
      obtain ⟨next, hnext, hrest⟩ := hrun
      rw [record_cons note hnext, ← List.append_assoc]
      exact ih hrest _ (hstep hnow hnext)

/-- What holds of a crowd with no history and is kept by every step holds after every run. -/
theorem run?_induction (property : Crowd σ α → List (Deed α) → Prop) {start last : Crowd σ α}
    (hstart : property start [])
    (hstep : ∀ {crowd next past event}, property crowd past → step? gate crowd event = some next →
      property next (past ++ (deed? gate crowd event).toList))
    {events : List Event} (hrun : run? gate start events = some last) :
    property last (history gate start events) := by
  rw [history_eq_record]
  exact run?_record_induction property hstart hstep hrun

end Crowd

end ControlPlane.Gate
