import ControlPlane.Authenticator.Google
import ControlPlane.Proofs.Program.Attempt
import ControlPlane.Proofs.Program.Outline
import Mathlib.Data.List.Forall2

/-!
# The same steps at another time

Two runs in the same surroundings may differ in what the clock says and in the assertions that are
signed with the time in them. A token endpoint gives the same answer to such assertions. Programs
that are run again take the same steps, up to these, and come to the same failure, unless one of the
runs computes an end that no calendar has.
-/

namespace ControlPlane

/-- The form in which an assertion is exchanged for a token. -/
def Authenticator.assertionForm (assertion : String) : List (String × String) :=
  [("grant_type", assertionGrant), ("assertion", assertion)]

section

variable [Wording]

/-- Requests that are the same but for the time that an assertion claims. -/
inductive Request.SameButTime : Request → Request → Prop where
  | same (request : Request) : SameButTime request request
  | asserts {key : ServiceAccountKey} {claim value first second : String} {now later : Int}
      (url : Url) (hfirst : key.assertion now claim value = .ok first)
      (hsecond : key.assertion later claim value = .ok second) :
      SameButTime (Endpoint.formRequest url (Authenticator.assertionForm first))
        (Endpoint.formRequest url (Authenticator.assertionForm second))

theorem Request.SameButTime.url_eq {request other : Request} (h : request.SameButTime other) :
    request.url = other.url := by
  cases h with
  | same => rfl
  | asserts => rfl

/-- Steps that are the same but for the time. -/
inductive Asked.SameButTime : Asked → Asked → Prop where
  | same (asked : Asked) : SameButTime asked asked
  | wallClock (now later : Instant) : SameButTime ⟨.wallClock, now⟩ ⟨.wallClock, later⟩
  | exchange {request other : Request} (h : request.SameButTime other)
      (answer : Except WireFault Response) :
      SameButTime ⟨.exchange request, answer⟩ ⟨.exchange other, answer⟩

/-- Runs that take the same steps, whatever the time. -/
def SameSteps (trace others : List Asked) : Prop :=
  List.Forall₂ Asked.SameButTime (outline trace) (outline others)

theorem SameSteps.of_outline {trace others : List Asked} (h : outline trace = outline others) :
    SameSteps trace others := by
  rw [SameSteps, h]
  exact List.forall₂_same.mpr fun asked _ => .same asked

theorem SameSteps.append {first second others rest : List Asked} (h : SameSteps first second)
    (hrest : SameSteps others rest) : SameSteps (first ++ others) (second ++ rest) := by
  rw [SameSteps, outline_append, outline_append]
  exact List.rel_append h hrest

/-- Token endpoints give the same answer whatever the time in an assertion. -/
def Answers.TimeBlind (answers : Answers) : Prop :=
  ∀ request other : Request, request.SameButTime other →
    answers (.exchange request) = answers (.exchange other)

end

/-! ### Programs -/

namespace Program

variable {α β γ δ : Type} {answers : Answers} {related excused : α → β → Prop}
  {result resultExcused : γ → δ → Prop} {program : Program α} {twin : Program β}

variable [Wording]

/-- Any two runs take the same steps and come to related results, or to results that excuse it. -/
def Again (answers : Answers) (related excused : α → β → Prop) (program : Program α)
    (twin : Program β) : Prop :=
  ∀ trace others value reply, program.Runs trace value → twin.Runs others reply →
    answers.GivenIn trace → answers.GivenIn others →
      SameSteps trace others ∧ related value reply ∨ excused value reply

theorem again_done {value : α} {reply : β} (h : related value reply) :
    Again answers related excused (.done value) (.done reply) := by
  intro trace others first second hrun htwin _ _
  obtain ⟨rfl, rfl⟩ := runs_done_iff.mp hrun
  obtain ⟨rfl, rfl⟩ := runs_done_iff.mp htwin
  exact .inl ⟨.of_outline rfl, h⟩

theorem Again.mono {wider permissive : α → β → Prop}
    (h : Again answers related excused program twin)
    (hwider : ∀ value reply, related value reply → wider value reply)
    (hpermissive : ∀ value reply, excused value reply → permissive value reply) :
    Again answers wider permissive program twin := by
  intro trace others value reply hrun htwin hgiven hother
  exact (h _ _ _ _ hrun htwin hgiven hother).imp
    (fun hsame => ⟨hsame.1, hwider _ _ hsame.2⟩) (hpermissive _ _)

theorem Again.bind {next : α → Program γ} {other : β → Program δ}
    (h : Again answers related excused program twin)
    (hnext : ∀ value reply, related value reply →
      Again answers result resultExcused (next value) (other reply))
    (hexcused : ∀ value reply, excused value reply →
      Apart resultExcused (next value) (other reply)) :
    Again answers result resultExcused (program >>= next) (twin >>= other) := by
  intro trace others value reply hrun htwin hgiven hother
  obtain ⟨first, middle, second, rfl, hfirst, hsecond⟩ := runs_bind_iff.mp hrun
  obtain ⟨twinFirst, twinMiddle, twinSecond, rfl, htwinFirst, htwinSecond⟩ :=
    runs_bind_iff.mp htwin
  rw [Answers.givenIn_append] at hgiven hother
  rcases h _ _ _ _ hfirst htwinFirst hgiven.1 hother.1 with ⟨hsteps, hrelated⟩ | hexcuse
  · have hlater := hnext _ _ hrelated _ _ _ _ hsecond htwinSecond hgiven.2 hother.2
    exact hlater.imp_left fun hlater => ⟨hsteps.append hlater.1, hlater.2⟩
  · exact .inr (hexcused _ _ hexcuse _ _ _ _ hsecond htwinSecond)

/-- A program that does not ask for the time does the same again. -/
theorem again_of_timeless {program : Program α} (h : program.Timeless) :
    Again answers
      (fun value reply => value = program.answerAll answers ∧ reply = program.answerAll answers)
      (fun _ _ => False) program program := by
  intro trace others value reply hrun htwin hgiven hother
  obtain ⟨htrace, hvalue⟩ := hrun.eq_of_givenIn hgiven (h.askAll answers)
  obtain ⟨hothers, hreply⟩ := htwin.eq_of_givenIn hother (h.askAll answers)
  refine .inl ⟨.of_outline ?_, hvalue, hreply⟩
  rw [htrace, hothers]

theorem again_wallClock :
    Again answers (fun _ _ => True) (fun _ _ => False) wallClock wallClock := by
  intro trace others now later hrun htwin _ _
  obtain rfl := runs_query_iff.mp hrun
  obtain rfl := runs_query_iff.mp htwin
  exact .inl ⟨List.Forall₂.cons (.wallClock now later) .nil, trivial⟩

theorem again_exchange (hblind : answers.TimeBlind) {request other : Request}
    (h : request.SameButTime other) :
    Again answers Eq (fun _ _ => False) (exchange request) (exchange other) := by
  intro trace others answer reply hrun htwin hgiven hother
  obtain rfl := runs_query_iff.mp hrun
  obtain rfl := runs_query_iff.mp htwin
  obtain rfl : answer = answers (.exchange request) := (Answers.givenIn_cons.mp hgiven).1 nofun
  obtain rfl : reply = answers (.exchange other) := (Answers.givenIn_cons.mp hother).1 nofun
  rw [hblind request other h]
  exact .inl ⟨List.Forall₂.cons (.exchange h _) .nil, rfl⟩

end Program

/-! ### Attempts -/

/-- One of two outcomes has left the calendar. -/
def EitherBeyond {α β : Type} (outcome : Except Failure α) (other : Except Failure β) : Prop :=
  outcome = .error .outOfCalendar ∨ other = .error .outOfCalendar

namespace Attempt

variable {α β γ δ : Type} {answers : Answers} {related : α → β → Prop} {result : γ → δ → Prop}

/-- The attempt is at its end. -/
theorem apart_bindCont_of_eitherBeyond {next : α → Attempt γ} {other : β → Attempt δ}
    {first : Except Failure α} {second : Except Failure β} (h : EitherBeyond first second) :
    Program.Apart EitherBeyond (ExceptT.bindCont next first) (ExceptT.bindCont other second) := by
  intro trace others value reply hrun htwin
  rcases h with rfl | rfl
  · exact .inl (Program.runs_done_iff.mp hrun).2
  · exact .inr (Program.runs_done_iff.mp htwin).2

variable [Wording]

def Again (answers : Answers) (related : α → β → Prop) (attempt : Attempt α) (twin : Attempt β) :
    Prop :=
  Program.Again answers (SameOutcome related) EitherBeyond attempt.run twin.run

theorem again_pure {value : α} {reply : β} (h : related value reply) :
    Again answers related (pure value) (pure reply) :=
  Program.again_done (.ok h)

theorem again_fail (error : Error) : Again answers related (fail error) (fail error) :=
  Program.again_done (SameOutcome.error (Failure.error error))

theorem again_fail_bind {next : γ → Attempt α} {other : δ → Attempt β} (error : Error) :
    Again answers related (fail error >>= next) (fail error >>= other) :=
  Program.again_done (SameOutcome.error (Failure.error error))

theorem again_throw_outOfCalendar_left {twin : Attempt β} :
    Again answers related (throw .outOfCalendar) twin := by
  intro trace others value reply hrun _ _ _
  exact .inr (.inl (Program.runs_done_iff.mp hrun).2)

theorem again_throw_outOfCalendar_right {attempt : Attempt α} :
    Again answers related attempt (throw .outOfCalendar) := by
  intro trace others value reply _ htwin _ _
  exact .inr (.inr (Program.runs_done_iff.mp htwin).2)

theorem again_ofExcept {found : Except Error α} {twin : Except Error β}
    (h : SameOutcome related found twin) :
    Again answers related (ofExcept found) (ofExcept twin) := by
  cases h with
  | error cause => exact again_fail cause
  | ok h => exact again_pure h

theorem Again.mono {wider : α → β → Prop} {attempt : Attempt α} {twin : Attempt β}
    (h : Again answers related attempt twin)
    (hwider : ∀ value reply, related value reply → wider value reply) :
    Again answers wider attempt twin :=
  Program.Again.mono h (fun _ _ hsame => hsame.mono hwider) fun _ _ => id

theorem Again.bind {attempt : Attempt α} {twin : Attempt β} {next : α → Attempt γ}
    {other : β → Attempt δ} (h : Again answers related attempt twin)
    (hnext : ∀ value reply, related value reply →
      Again answers result (next value) (other reply)) :
    Again answers result (attempt >>= next) (twin >>= other) := by
  change Program.Again _ _ _ (attempt.run >>= ExceptT.bindCont next)
    (twin.run >>= ExceptT.bindCont other)
  refine Program.Again.bind h ?_ fun _ _ => apart_bindCont_of_eitherBeyond
  rintro _ _ (failure | hvalue)
  · exact Program.again_done (.error failure)
  · exact hnext _ _ hvalue

/-- A step that is only a question or a log line does not fail. -/
theorem again_lift_bind {program : Program α} {twin : Program β} {next : α → Attempt γ}
    {other : β → Attempt δ} (h : Program.Again answers related (fun _ _ => False) program twin)
    (hnext : ∀ value reply, related value reply →
      Again answers result (next value) (other reply)) :
    Again answers result (liftM program >>= next) (liftM twin >>= other) := by
  unfold Again
  rw [run_lift_bind, run_lift_bind]
  exact Program.Again.bind h hnext nofun

/-- An attempt that does not ask for the time does the same again. -/
theorem again_of_timeless {attempt : Attempt α} (h : attempt.run.Timeless) :
    Again answers (fun value reply => attempt.outcome answers = .ok value ∧ reply = value)
      attempt attempt := by
  intro trace others value reply hrun htwin hgiven hother
  rcases Program.again_of_timeless h _ _ _ _ hrun htwin hgiven hother with
    ⟨hsteps, hvalue, hreply⟩ | hfalse
  · refine .inl ⟨hsteps, ?_⟩
    rw [hvalue, hreply, ← outcome]
    cases houtcome : attempt.outcome answers with
    | error failure => exact .error failure
    | ok value => exact .ok ⟨rfl, rfl⟩
  · exact hfalse.elim

end Attempt

end ControlPlane
