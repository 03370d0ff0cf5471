import ControlPlane.Proofs.Gate.Guard

/-!
# What callers are told

Every outcome has its cause in the history: a value was made by the very caller or found by it, and a
failure is that of the very caller. What was found had been looked up under the answers on record.
-/

namespace ControlPlane.Gate

variable {σ α : Type} {gate : Gate σ α} {crowd next start : Crowd σ α} {event : Event}
  {deed : Option (Deed α)} {past : List (Deed α)}

/-- The deeds of a caller that end in an outcome. -/
def Deed.Causes (past : List (Deed α)) (caller : Nat) : Except Failure α → Prop
  | .ok value => .made caller value ∈ past ∨ ∃ answers, .found caller value answers ∈ past
  | .error failure => .failed caller failure ∈ past

theorem Deed.Causes.append {caller : Nat} {outcome : Except Failure α}
    (h : Causes past caller outcome) (more : List (Deed α)) :
    Causes (past ++ more) caller outcome := by
  cases outcome with
  | error failure => exact List.mem_append_left more h
  | ok value =>
      rcases h with hmade | ⟨answers, hfound⟩
      · exact .inl (List.mem_append_left more hmade)
      · exact .inr ⟨answers, List.mem_append_left more hfound⟩

theorem Deed.isMade_iff {deed : Deed α} :
    deed.isMade = true ↔ ∃ caller value, deed = .made caller value := by
  cases deed <;> simp [isMade]

theorem Deed.countP_isMade_le_one (h : ∀ before caller value after,
    past = before ++ .made caller value :: after → ∀ deed ∈ after, deed.isMade = false) :
    past.countP Deed.isMade ≤ 1 := by
  induction past with
  | nil => simp
  | cons deed rest ih =>
      by_cases hmade : deed.isMade
      · obtain ⟨caller, value, rfl⟩ := isMade_iff.mp hmade
        have hrest : rest.countP Deed.isMade = 0 := by
          simpa [List.countP_eq_zero] using h [] caller value rest rfl
        rw [List.countP_cons_of_pos hmade]
        omega
      · rw [List.countP_cons_of_neg hmade]
        refine ih fun before caller value after hrest => ?_
        exact h (deed :: before) caller value after (by rw [hrest]; rfl)

namespace Crowd

@[simp]
theorem outcome?_beginStage (state : σ) (stages : List (Stage σ α)) :
    (beginStage gate state stages).outcome? = none := by
  cases stages <;> rfl

theorem beginStage_ne_leaving (state : σ) (stages : List (Stage σ α))
    (outcome : Except Failure α) : beginStage gate state stages ≠ .leaving outcome := by
  cases stages <;> simp [beginStage]

/-- A step gives no outcome to anyone but the one who takes it, and to that one only for a deed. -/
theorem outcome?_of_move (hmove : Move gate crowd event deed next) {caller : Nat}
    {outcome : Except Failure α} (houtcome : (next.phase caller).outcome? = some outcome) :
    (crowd.phase caller).outcome? = some outcome ∨ Deed.Causes deed.toList caller outcome := by
  cases hmove with
  | finds | findsAgain =>
      rw [phase_place] at houtcome
      split at houtcome
      · next heq =>
          obtain rfl := Option.some.inj houtcome
          exact .inr (.inr ⟨_, List.mem_singleton.mpr (by rw [heq])⟩)
      · exact .inl houtcome
  | makes | fails =>
      rw [phase_place] at houtcome
      split at houtcome
      · next heq =>
          obtain rfl := Option.some.inj houtcome
          simp [Deed.Causes, heq]
      · exact .inl houtcome
  | leaves hphase =>
      rw [phase_place, phase_release] at houtcome
      split at houtcome
      · next heq => exact .inl (by rw [heq, hphase]; exact houtcome)
      · exact .inl houtcome
  | waits | enters | asks =>
      rw [phase_place] at houtcome
      split at houtcome
      · simp [Phase.outcome?] at houtcome
      · exact .inl houtcome
  | begins | goesOn =>
      rw [phase_place] at houtcome
      split at houtcome
      · rw [outcome?_beginStage] at houtcome
        cases houtcome
      · exact .inl houtcome
  | drops | goes =>
      rw [phase_place, phase_release] at houtcome
      split at houtcome
      · simp [Phase.outcome?] at houtcome
      · exact .inl houtcome

/-- **No outcome without a cause.** -/
theorem causes_of_outcome? (hstart : ∀ caller, (start.phase caller).outcome? = none)
    {events : List Event} (hrun : run? gate start events = some crowd) {caller : Nat}
    {outcome : Except Failure α} (houtcome : (crowd.phase caller).outcome? = some outcome) :
    Deed.Causes (history gate start events) caller outcome := by
  refine run?_induction (fun crowd past => ∀ caller outcome,
    (crowd.phase caller).outcome? = some outcome → Deed.Causes past caller outcome)
    ?_ ?_ hrun caller outcome houtcome
  · intro caller outcome hnone
    simp [hstart caller] at hnone
  · intro crowd next past event hpast hstep caller outcome hnext
    rcases outcome?_of_move (move_of_step? hstep) hnext with hbefore | hdeed
    · exact (hpast caller outcome hbefore).append _
    · cases outcome with
      | error failure => exact List.mem_append_right _ hdeed
      | ok value =>
          exact hdeed.imp (List.mem_append_right _)
            fun ⟨answers, hfound⟩ => ⟨answers, List.mem_append_right _ hfound⟩

theorem look_of_move {caller : Nat} {value : α} {answers : Answers}
    (hmove : Move gate crowd event (some (.found caller value answers)) next) :
    (gate.look crowd.state).answerAll answers = some value := by
  cases hmove with
  | finds hphase hlook | findsAgain hphase hlook => exact hlook

theorem phase_of_leaving_error (hmove : Move gate crowd event deed next) {caller : Nat}
    {failure : Failure} (hphase : next.phase caller = .leaving (.error failure)) :
    crowd.phase caller = .leaving (.error failure) ∨ (crowd.phase caller).IsWorking := by
  cases hmove with
  | fails hworking =>
      rw [phase_place] at hphase
      split at hphase
      · next heq => exact .inr (Phase.isWorking_of_eq (heq ▸ hworking))
      · exact .inl hphase
  | begins | goesOn =>
      rw [phase_place] at hphase
      split at hphase
      · simp [beginStage_ne_leaving] at hphase
      · exact .inl hphase
  | leaves | drops | goes =>
      rw [phase_place, phase_release] at hphase
      split at hphase
      · simp at hphase
      · exact .inl hphase
  | _ =>
      rw [phase_place] at hphase
      split at hphase
      · simp at hphase
      · exact .inl hphase

theorem isWorking_of_move (hmove : Move gate crowd event deed next) {caller : Nat}
    (hworking : (next.phase caller).IsWorking) :
    (crowd.phase caller).IsWorking ∨ ∃ answers, deed = some (.began caller answers) := by
  cases hmove with
  | begins =>
      rw [phase_place] at hworking
      split at hworking
      · next heq => exact .inr ⟨_, by rw [heq]⟩
      · exact .inl hworking
  | asks hphase | goesOn hphase =>
      rw [phase_place] at hworking
      split at hworking
      · next heq => exact .inl (Phase.isWorking_of_eq (heq ▸ hphase))
      · exact .inl hworking
  | leaves | drops | goes =>
      rw [phase_place, phase_release] at hworking
      split at hworking
      · exact hworking.elim
      · exact .inl hworking
  | _ =>
      rw [phase_place] at hworking
      split at hworking
      · exact hworking.elim
      · exact .inl hworking

theorem lookAgain_of_began {caller : Nat} {answers : Answers} {events : List Event}
    (hbegan : .began caller answers ∈ history gate start events) :
    .lookAgain caller answers ∈ events := by
  induction events generalizing start with
  | nil => simp [history] at hbegan
  | cons event rest ih =>
      cases hstep : step? gate start event with
      | none => simp [history, hstep] at hbegan
      | some next =>
          rw [history_cons hstep] at hbegan
          rcases List.mem_append.mp hbegan with hdeed | hrest
          · have hmove := Option.mem_toList.mp hdeed ▸ move_of_step? hstep
            cases hmove with
            | begins => exact List.mem_cons_self
          · exact List.mem_cons_of_mem _ (ih hrest)

theorem look_of_found {events : List Event} (hrun : run? gate start events = some crowd)
    {caller : Nat} {value : α} {answers : Answers}
    (hfound : .found caller value answers ∈ history gate start events) :
    ∃ state, (gate.look state).answerAll answers = some value := by
  refine run?_induction (fun _ past => ∀ caller value answers,
    .found caller value answers ∈ past → ∃ state, (gate.look state).answerAll answers = some value)
    (by simp) ?_ hrun caller value answers hfound
  intro crowd next past event hpast hstep caller value answers hmem
  rcases List.mem_append.mp hmem with hbefore | hdeed
  · exact hpast caller value answers hbefore
  · exact ⟨crowd.state, look_of_move (Option.mem_toList.mp hdeed ▸ move_of_step? hstep)⟩

end Crowd

end ControlPlane.Gate
