import ControlPlane.Proofs.Program.Relay
import ControlPlane.Proofs.Secrets

/-!
# Two runs side by side

Coupled programs ask alike questions and come to related results, for as long as their answers
differ only in secrets and complain in the same words. From the first complaint on that differs,
their results are apart. Programs are coupled step by step, and then any two of their runs that are
answered alike write the same lines, or come to results that are apart.
-/

namespace ControlPlane

/-- Outcomes that are two errors. -/
inductive ErrorsApart {α β : Type} : Except Failure α → Except Failure β → Prop where
  | mk {error other : Error} (h : error ≠ other) :
      ErrorsApart (.error (.error error)) (.error (.error other))

/-- Outcomes that are both successes, with values of this kind. -/
inductive BothOk {ε α β : Type} (related : α → β → Prop) : Except ε α → Except ε β → Prop where
  | mk {value : α} {twin : β} (h : related value twin) : BothOk related (.ok value) (.ok twin)

/-- Whatever is left, two errors are told. -/
def TellApart {σ τ α β : Type} (left : σ × Except Failure α) (other : τ × Except Failure β) : Prop :=
  ErrorsApart left.2 other.2

namespace Program

variable {α β γ δ : Type} {related apart : α → β → Prop} {result resultApart : γ → δ → Prop}
  {program : Program α} {twin : Program β} {next : α → Program γ} {other : β → Program δ}

theorem Apart.attemptBy (h : Apart apart program twin)
    (send reply : Request → Program (Except Error Response)) :
    Apart apart (program.attemptBy send) (twin.attemptBy reply) := by
  intro trace others value result hrun htwin
  obtain ⟨_, hfirst, -⟩ := runs_attemptBy_iff.mp hrun
  obtain ⟨_, hsecond, -⟩ := runs_attemptBy_iff.mp htwin
  exact h _ _ _ _ hfirst hsecond

variable [Wording]

inductive Coupled (related apart : α → β → Prop) : Program α → Program β → Prop where
  | done {value : α} {twin : β} (h : related value twin) :
      Coupled related apart (.done value) (.done twin)
  | ask {first second : Query} {resume : first.Answer → Program α}
      {other : second.Answer → Program β} (halike : first.Alike second)
      (hquiet : ∀ answer reply, first.Agree second answer reply →
        first.complaint? answer = second.complaint? reply →
          Coupled related apart (resume answer) (other reply))
      (hloud : ∀ answer reply, first.Agree second answer reply →
        first.complaint? answer ≠ second.complaint? reply →
          Apart apart (resume answer) (other reply)) :
      Coupled related apart (.ask first resume) (.ask second other)

/-- Coupled programs that no complaint drives apart. -/
abbrev InStep (related : α → β → Prop) : Program α → Program β → Prop :=
  Coupled related fun _ _ => False

theorem Coupled.mono {wider farther : α → β → Prop} (h : Coupled related apart program twin)
    (hwider : ∀ value reply, related value reply → wider value reply)
    (hfarther : ∀ value reply, apart value reply → farther value reply) :
    Coupled wider farther program twin := by
  induction h with
  | done h => exact .done (hwider _ _ h)
  | ask halike _ hloud ih =>
      refine .ask halike ih fun answer reply hagree hcomplaints => ?_
      intro trace others value result hrun htwin
      exact hfarther _ _ (hloud answer reply hagree hcomplaints _ _ _ _ hrun htwin)

theorem Coupled.bind (h : Coupled related apart program twin)
    (hnext : ∀ value reply, related value reply →
      Coupled result resultApart (next value) (other reply))
    (hapart : ∀ value reply, apart value reply → Apart resultApart (next value) (other reply)) :
    Coupled result resultApart (program >>= next) (twin >>= other) := by
  induction h with
  | done h => exact hnext _ _ h
  | ask halike _ hloud ih =>
      exact .ask halike ih fun answer reply hagree hcomplaints =>
        (hloud answer reply hagree hcomplaints).bind hapart

theorem InStep.bind (h : InStep related program twin)
    (hnext : ∀ value reply, related value reply →
      Coupled result resultApart (next value) (other reply)) :
    Coupled result resultApart (program >>= next) (twin >>= other) :=
  Coupled.bind h hnext nofun

theorem coupled_query {first second : Query} (halike : first.Alike second) :
    Coupled
      (fun answer reply => first.Agree second answer reply ∧
        first.complaint? answer = second.complaint? reply)
      (fun answer reply => first.Agree second answer reply ∧
        first.complaint? answer ≠ second.complaint? reply)
      (query first) (query second) :=
  .ask halike (fun _ _ hagree hcomplaints => .done ⟨hagree, hcomplaints⟩)
    fun _ _ hagree hcomplaints => apart_done ⟨hagree, hcomplaints⟩

/-- A question whose answers do not complain, or do so in the same words. -/
theorem inStep_query {first second : Query} (halike : first.Alike second)
    (hsame : ∀ answer reply, first.Agree second answer reply →
      first.complaint? answer = second.complaint? reply) :
    InStep (first.Agree second) (query first) (query second) :=
  (coupled_query halike).mono (fun _ _ h => h.1) fun answer reply h => h.2 (hsame answer reply h.1)

theorem inStep_attempt {request other : Request} (hcall : request.IsCall)
    (hshown : request.shown = other.shown) : InStep Eq (attempt request) (attempt other) := by
  refine (inStep_query (.attempt hcall hshown) fun _ _ _ => rfl).mono ?_ nofun
  rintro answer reply (_ | _)
  · rfl
  · rfl

/-- A question whose answers hold no secrets. -/
theorem inStep_query_eq (question : Query) (hquestion : question.attempted? = none)
    (hanswers : ∀ answer reply, question.Agree question answer reply → answer = reply) :
    InStep Eq (query question) (query question) := by
  refine (inStep_query (.same question hquestion) ?_).mono hanswers nofun
  intro answer reply hagree
  rw [hanswers answer reply hagree]

theorem inStep_wallClock : InStep Eq wallClock wallClock := by
  apply inStep_query_eq .wallClock rfl
  rintro now other ⟨⟩
  rfl

theorem inStep_steadyClock : InStep Eq steadyClock steadyClock := by
  apply inStep_query_eq .steadyClock rfl
  rintro now other ⟨⟩
  rfl

theorem inStep_homeDirectory : InStep Eq homeDirectory homeDirectory := by
  apply inStep_query_eq .homeDirectory rfl
  rintro home other ⟨⟩
  rfl

theorem inStep_log (level : Level) (line : String) :
    InStep Eq (log level line) (log level line) :=
  inStep_query_eq (.log level line) rfl fun _ _ _ => rfl

theorem Coupled.after_log (level : Level) (line : String) (h : Coupled related apart program twin) :
    Coupled related apart (log level line >>= fun _ => program)
      (log level line >>= fun _ => twin) :=
  (inStep_log level line).bind fun _ _ _ => h

/-- Coupled programs stay so when their attempts are made by a program that treats calls alike. -/
theorem Coupled.attemptBy {send : Request → Program (Except Error Response)}
    (hsend : ∀ request other, Request.IsCall request → request.shown = other.shown →
      InStep Eq (send request) (send other))
    (h : Coupled related apart program twin) :
    Coupled related apart (program.attemptBy send) (twin.attemptBy send) := by
  induction h with
  | done h => exact .done h
  | @ask first second resume other halike _ hloud ih =>
      have hapart answer reply hagree hcomplaints :=
        (hloud answer reply hagree hcomplaints).attemptBy send send
      cases halike with
      | same _ hquery =>
          cases first with
          | attempt request => cases hquery
          | _ => exact .ask (.same _ hquery) ih hapart
      | attempt hcall hshown =>
          refine (hsend _ _ hcall hshown).bind ?_
          rintro answer _ rfl
          exact ih _ _ (.attempt _ _ answer) rfl
      | exchange hcall hshown => exact .ask (.exchange hcall hshown) ih hapart

/-- **Coupled runs.** Runs of coupled programs that are answered alike write the same lines and come
to related results, or hear complaints that differ and come to results that are apart. -/
theorem Coupled.of_runs {trace others : List Asked} {value : α} {reply : β}
    (h : Coupled related apart program twin) (hrun : program.Runs trace value)
    (htwin : twin.Runs others reply) (hanswers : AnsweredAlike trace others) :
    (complaintsOf trace = complaintsOf others ∧ linesOf trace = linesOf others ∧
        related value reply) ∨
      (complaintsOf trace ≠ complaintsOf others ∧ apart value reply) := by
  induction h generalizing trace others with
  | done h =>
      obtain ⟨rfl, rfl⟩ := runs_done_iff.mp hrun
      obtain ⟨rfl, rfl⟩ := runs_done_iff.mp htwin
      exact .inl ⟨rfl, rfl, h⟩
  | @ask first second resume other halike _ hloud ih =>
      obtain ⟨answer, later, rfl, hlater⟩ := runs_ask_iff.mp hrun
      obtain ⟨twinAnswer, twinLater, rfl, htwinLater⟩ := runs_ask_iff.mp htwin
      obtain ⟨hagree, hrest⟩ := hanswers halike
      rw [complaintsOf_cons, complaintsOf_cons]
      by_cases hcomplaints : first.complaint? answer = second.complaint? twinAnswer
      · simp only [hcomplaints, ne_eq, List.append_right_inj]
        refine (ih answer twinAnswer hagree hcomplaints hlater htwinLater hrest).imp_left ?_
        rintro ⟨hsame, hlines, hrelated⟩
        refine ⟨hsame, ?_, hrelated⟩
        unfold linesOf at *
        rw [List.filterMap_cons, List.filterMap_cons, halike.line?_eq, hlines]
      · have hapart := hloud answer twinAnswer hagree hcomplaints _ _ _ _ hlater htwinLater
        refine .inr ⟨?_, hapart⟩
        obtain ⟨words, others, hwords, hothers, hne⟩ :=
          exists_words_ne hagree.isSome_complaint? hcomplaints
        simp [hwords, hothers, hne]

end Program

/-! ### Attempts -/

namespace Attempt

variable {α β γ δ : Type} {related : α → β → Prop} {result : γ → δ → Prop}

/-- Two errors end both attempts. -/
theorem apart_bindCont {next : α → Attempt γ} {other : β → Attempt δ} {first : Except Failure α}
    {second : Except Failure β} (h : ErrorsApart first second) :
    Program.Apart ErrorsApart (ExceptT.bindCont next first) (ExceptT.bindCont other second) := by
  obtain ⟨herrors⟩ := h
  exact Program.apart_done (.mk herrors)

variable [Wording]

def Coupled (related : α → β → Prop) (first : Attempt α) (second : Attempt β) : Prop :=
  Program.Coupled (SameOutcome related) ErrorsApart first.run second.run

theorem coupled_pure {value : α} {twin : β} (h : related value twin) :
    Coupled related (pure value) (pure twin) :=
  .done (.ok h)

theorem coupled_throw (failure : Failure) : Coupled related (throw failure) (throw failure) :=
  .done (.error failure)

theorem coupled_fail (error : Error) : Coupled related (fail error) (fail error) :=
  coupled_throw (.error error)

theorem coupled_ofExcept {found : Except Error α} {twin : Except Error β}
    (h : SameOutcome related found twin) : Coupled related (ofExcept found) (ofExcept twin) := by
  cases h with
  | error cause => exact coupled_fail cause
  | ok h => exact coupled_pure h

theorem coupled_ofOption {found : Option α} {twin : Option β} (error : Error)
    (h : Option.Rel related found twin) :
    Coupled related (ofOption error found) (ofOption error twin) := by
  cases h with
  | none => exact coupled_fail error
  | some h => exact coupled_pure h

theorem Coupled.bind {first : Attempt α} {second : Attempt β} {next : α → Attempt γ}
    {other : β → Attempt δ} (h : Coupled related first second)
    (hnext : ∀ value reply, related value reply → Coupled result (next value) (other reply)) :
    Coupled result (first >>= next) (second >>= other) := by
  change Program.Coupled _ _ (first.run >>= ExceptT.bindCont next)
    (second.run >>= ExceptT.bindCont other)
  refine Program.Coupled.bind h ?_ fun _ _ => apart_bindCont
  rintro _ _ (failure | hvalue)
  · exact .done (.error failure)
  · exact hnext _ _ hvalue

/-- A step that is only a question or a log line does not fail. -/
theorem coupled_lift_bind {apart : α → β → Prop} {program : Program α} {twin : Program β}
    {next : α → Attempt γ} {other : β → Attempt δ} (h : Program.Coupled related apart program twin)
    (hnext : ∀ value reply, related value reply → Coupled result (next value) (other reply))
    (hapart : ∀ value reply, apart value reply →
      Program.Apart ErrorsApart (next value).run (other reply).run) :
    Coupled result (liftM program >>= next) (liftM twin >>= other) := by
  unfold Coupled
  rw [run_lift_bind, run_lift_bind]
  exact h.bind hnext hapart

theorem inStep_lift_bind {program : Program α} {twin : Program β} {next : α → Attempt γ}
    {other : β → Attempt δ} (h : Program.InStep related program twin)
    (hnext : ∀ value reply, related value reply → Coupled result (next value) (other reply)) :
    Coupled result (liftM program >>= next) (liftM twin >>= other) :=
  coupled_lift_bind h hnext nofun

end Attempt

end ControlPlane
