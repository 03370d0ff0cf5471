import ControlPlane.Proofs.Error.Transient
import ControlPlane.Proofs.Retry.Replay
import Mathlib.Data.List.Forall2

/-!
# Refusals

An answer that is no success is told from another by its status alone, unless it is a bad request:
its body goes into the text of the error and nowhere else. A call without a veto therefore takes the
same course whatever the bodies of its refusals are: it sends the same, waits as long and ends with
the same kind of answer, and the texts of errors and log lines are all that a body can change.
-/

namespace ControlPlane

namespace Error

variable {code : Nat}

theorem isRetryable_of_ne (h : code ≠ 400) (octets : Bytes) :
    (ofResponse code octets).isRetryable = isRetryableStatus code := by
  rw [isRetryable_ofResponse, isTransient, decide_eq_false h, Bool.false_and, Bool.or_false]

theorem isRetryableStatus_iff :
    isRetryableStatus code = true ↔ code ∈ [429, 500, 502, 503, 504] := by
  simp [isRetryableStatus, or_assoc]

end Error

open Error Program

/-- Answers to an attempt that differ at most in the body and the headers of a refusal. -/
inductive SameStanding : Except Error Response → Except Error Response → Prop where
  | same (answer : Except Error Response) : SameStanding answer answer
  | refused {first second : Response} (hstatus : first.status = second.status)
      (hrefused : first.isSuccess = false) (hother : first.status ≠ 400) :
      SameStanding (.ok first) (.ok second)

/-- Outcomes that differ at most in the body that the error of a refusal was made from. -/
inductive SameRefusal : Except Error Response → Except Error Response → Prop where
  | same (outcome : Except Error Response) : SameRefusal outcome outcome
  | refused {code : Nat} (hother : code ≠ 400) (first second : Bytes) :
      SameRefusal (.error (ofResponse code first)) (.error (ofResponse code second))

/-- Steps of two runs that differ at most in the texts of refusals and of log lines. -/
inductive Asked.SameStep : Asked → Asked → Prop where
  | same (asked : Asked) : SameStep asked asked
  | line (level : Level) (first second : String) :
      SameStep ⟨.log level first, ()⟩ ⟨.log level second, ()⟩
  | attempt (request : Request) {first second : Except Error Response}
      (h : SameStanding first second) :
      SameStep ⟨.attempt request, first⟩ ⟨.attempt request, second⟩

/-- Attempts of the same requests, answered by the same standing. -/
abbrev SameCalls :
    List (Request × Except Error Response) → List (Request × Except Error Response) → Prop :=
  List.Forall₂ fun call other => call.1 = other.1 ∧ SameStanding call.2 other.2

theorem SameStanding.judge {first second : Except Error Response} (h : SameStanding first second) :
    SameRefusal (judge first) (judge second) := by
  cases h with
  | same => exact .same _
  | @refused first second hstatus hrefused hother =>
      have hsecond : second.isSuccess = false := by
        rw [← hrefused, Response.isSuccess, Response.isSuccess, hstatus]
      rw [ControlPlane.judge, ControlPlane.judge, hrefused, hsecond, hstatus]
      exact .refused (hstatus ▸ hother) _ _

namespace RetryPolicy

variable {policy : RetryPolicy} {request : Request} {method : Method} {started : Span}
  {number left : Nat} {trace : List Asked} {raw other outcome twin result : Except Error Response}
  {calls : List (Request × Except Error Response)}
  {again? : Option (Unit → Program (Except Error Response))}

/-- Without a veto a refusal is retried by its status. -/
theorem classify_refused (hveto : policy.veto = none) {code : Nat} (hother : code ≠ 400)
    (octets : Bytes) :
    policy.classify method (.error (ofResponse code octets)) =
      if isRetryableStatus code then .retry else .stopFatal := by
  rw [classify, isRetryable_of_ne hother, isVetoed, hveto]
  cases isRetryableStatus code <;> rfl

theorem classify_of_sameRefusal (hveto : policy.veto = none) (h : SameRefusal outcome twin) :
    policy.classify method outcome = policy.classify method twin := by
  cases h with
  | same => rfl
  | refused hother first second =>
      rw [classify_refused hveto hother, classify_refused hveto hother]

/-- A run of a program has a twin that makes its attempts with these answers. -/
def HasTwin (program : Program (Except Error Response)) (trace : List Asked)
    (result : Except Error Response) (calls : List (Request × Except Error Response)) : Prop :=
  ∃ steps answer, program.Runs steps answer ∧ callsOf steps = calls ∧
    List.Forall₂ Asked.SameStep trace steps ∧ SameRefusal result answer

theorem HasTwin.ask {query : Query} {resume : query.Answer → Program (Except Error Response)}
    {answer : query.Answer} (hquery : query.attempted? = none)
    (h : HasTwin (resume answer) trace result calls) :
    HasTwin (.ask query resume) (⟨query, answer⟩ :: trace) result calls := by
  obtain ⟨steps, reply, hruns, hcalls, hsteps, hreply⟩ := h
  refine ⟨⟨query, answer⟩ :: steps, reply, .ask answer hruns, ?_, .cons (.same _) hsteps, hreply⟩
  cases query with
  | attempt request => cases hquery
  | _ => exact hcalls

theorem HasTwin.line {level : Level} {first second : String}
    {resume : Unit → Program (Except Error Response)}
    (h : HasTwin (resume ()) trace result calls) :
    HasTwin (.ask (.log level second) resume) (⟨.log level first, ()⟩ :: trace) result calls := by
  obtain ⟨steps, reply, hruns, hcalls, hsteps, hreply⟩ := h
  exact ⟨_, reply, .ask () hruns, hcalls, .cons (.line ..) hsteps, hreply⟩

theorem HasTwin.attempt {resume : Except Error Response → Program (Except Error Response)}
    (hsame : SameStanding raw other) (h : HasTwin (resume other) trace result calls) :
    HasTwin (.ask (.attempt request) resume) (⟨.attempt request, raw⟩ :: trace) result
      ((request, other) :: calls) := by
  obtain ⟨steps, reply, hruns, hcalls, hsteps, hreply⟩ := h
  exact ⟨_, reply, .ask other hruns, congrArg _ hcalls, .cons (.attempt _ hsame) hsteps, hreply⟩

theorem hasTwin_done (h : SameRefusal outcome twin) : HasTwin (.done twin) [] outcome [] :=
  ⟨[], twin, .done twin, rfl, .nil, h⟩

/-- What follows an attempt is decided alike; only what follows the wait is left to show. -/
theorem hasTwin_settle (hveto : policy.veto = none) (hsame : SameRefusal outcome twin)
    (hruns : (policy.settle request started number again? outcome).Runs trace result)
    (hcalls : SameCalls (callsOf trace) calls)
    (hagain : ∀ again ∈ again?, ∀ later, (again ()).Runs later result →
      SameCalls (callsOf later) calls → HasTwin (again ()) later result calls) :
    HasTwin (policy.settle request started number again? twin) trace result calls := by
  have hclasses : policy.classify request.method outcome = policy.classify request.method twin :=
    classify_of_sameRefusal hveto hsame
  by_cases hclass : policy.classify request.method outcome = .retry
  · obtain ⟨error, rfl⟩ := error_of_classify hclass
    obtain ⟨reason, rfl⟩ := error_of_classify (hclasses ▸ hclass)
    cases again? with
    | none =>
        rw [settle_none hclass] at hruns
        rw [settle_none (hclasses ▸ hclass)]
        obtain ⟨_, rest, rfl, hrest⟩ := runs_ask_iff.mp hruns
        obtain ⟨rfl, rfl⟩ := runs_done_iff.mp hrest
        obtain rfl := List.forall₂_nil_left_iff.mp hcalls
        exact .line (hasTwin_done hsame)
    | some again =>
        rw [settle_some hclass] at hruns
        rw [settle_some (hclasses ▸ hclass), waitAndRetry_eq]
        obtain ⟨now, ⟨hspent, rfl, rfl⟩ | ⟨hleft, later, rfl, hlater⟩⟩ :=
          runs_waitAndRetry_iff.mp hruns
        · obtain rfl := List.forall₂_nil_left_iff.mp hcalls
          refine .ask rfl ?_
          rw [if_pos hspent]
          exact .line (hasTwin_done hsame)
        · refine .ask rfl ?_
          rw [if_neg hleft]
          exact .line (.ask rfl (hagain again rfl later hlater hcalls))
  · rw [settle_of_classify_ne hclass] at hruns
    rw [settle_of_classify_ne (hclasses ▸ hclass)]
    obtain ⟨rfl, rfl⟩ := runs_done_iff.mp hruns
    obtain rfl := List.forall₂_nil_left_iff.mp hcalls
    exact hasTwin_done hsame

theorem hasTwin_attempt (hveto : policy.veto = none)
    (hruns : (Program.attempt request >>= fun raw =>
      policy.settle request started number again? (judge raw)).Runs trace result)
    (hcalls : SameCalls (callsOf trace) calls)
    (hagain : ∀ again ∈ again?, ∀ later calls, (again ()).Runs later result →
      SameCalls (callsOf later) calls → HasTwin (again ()) later result calls) :
    HasTwin (Program.attempt request >>= fun raw =>
      policy.settle request started number again? (judge raw)) trace result calls := by
  obtain ⟨_, raw, rest, rfl, hattempt, hrest⟩ := runs_bind_iff.mp hruns
  obtain rfl := runs_query_iff.mp hattempt
  obtain ⟨⟨_, other⟩, calls, ⟨rfl, hsame⟩, hlater, rfl⟩ := List.forall₂_cons_left_iff.mp hcalls
  exact .attempt hsame (hasTwin_settle hveto hsame.judge hrest hlater fun again hmem later =>
    hagain again hmem later calls)

theorem hasTwin_attemptFrom (hveto : policy.veto = none)
    (hruns : (policy.attemptFrom Program.attempt request started number left).Runs trace result)
    (hcalls : SameCalls (callsOf trace) calls) :
    HasTwin (policy.attemptFrom Program.attempt request started number left) trace result
      calls := by
  -- `left` counts the attempts that may follow this one.
  induction left generalizing number trace calls with
  | zero => exact hasTwin_attempt hveto hruns hcalls (by simp)
  | succ left ih =>
      refine hasTwin_attempt hveto hruns hcalls ?_
      rintro again ⟨⟩ later calls hlater
      exact ih hlater

/-- **The course of a call.** Without a veto no body of a refusal can sway it. -/
theorem hasTwin_execute (hveto : policy.veto = none)
    (hruns : (policy.execute Program.attempt request).Runs trace result)
    (hcalls : SameCalls (callsOf trace) calls) :
    HasTwin (policy.execute Program.attempt request) trace result calls := by
  obtain ⟨started, rest, rfl, hrest⟩ := runs_ask_iff.mp hruns
  refine .ask rfl ?_
  cases hcopy : request.copy? with
  | none =>
      rw [hcopy] at hrest
      obtain ⟨rfl, rfl⟩ := runs_done_iff.mp hrest
      obtain rfl := List.forall₂_nil_left_iff.mp hcalls
      exact hasTwin_done (.same _)
  | some copy =>
      rw [hcopy] at hrest
      exact hasTwin_attemptFrom hveto hrest hcalls

/-- **Refusals are told by their status.** Whatever an answer that is no success holds, its error
has the status, and may pass exactly if the status is one of those that do; only a bad request may
pass for a text that the error keeps. So a policy without a veto retries by the status alone, and
with other bodies and headers in its refusals a call takes the same course. -/
theorem refusal_told_by_status :
    (∀ code first second, (ofResponse code first).status? = some code ∧
      (code ≠ 400 →
        (ofResponse code first).isRetryable = (ofResponse code second).isRetryable ∧
          ((ofResponse code first).isRetryable = true ↔ code ∈ [429, 500, 502, 503, 504]))) ∧
      (∀ octets, (ofResponse 400 octets).isRetryable = true ↔
        ∃ text, (ofResponse 400 octets).text? = some text ∧ Mentions text) ∧
      ∀ policy : RetryPolicy, policy.veto = none →
        (∀ method response, response.isSuccess = false → response.status ≠ 400 →
          (policy.classify method (judge (.ok response)) = .retry ↔
            response.status ∈ [429, 500, 502, 503, 504])) ∧
          ∀ request trace result calls, (policy.execute Program.attempt request).Runs trace result →
            SameCalls (callsOf trace) calls →
              HasTwin (policy.execute Program.attempt request) trace result calls := by
  have hstatus {code : Nat} (hother : code ≠ 400) (octets : Bytes) :
      (ofResponse code octets).isRetryable = true ↔ code ∈ [429, 500, 502, 503, 504] := by
    rw [isRetryable_of_ne hother, isRetryableStatus_iff]
  refine ⟨fun code first second => ⟨status?_ofResponse code first, fun hother => ?_⟩,
    fun octets => ?_, fun policy hveto => ⟨fun method response hrefused hother => ?_,
      fun _ _ _ _ => hasTwin_execute hveto⟩⟩
  · rw [isRetryable_of_ne hother second]
    exact ⟨isRetryable_of_ne hother first, hstatus hother first⟩
  · simp [isRetryable_badRequest, text?_ofResponse]
  · rw [classify_response hveto method hrefused]
    exact hstatus hother _

/-- One attempt a second for two seconds. -/
def patientPolicy : RetryPolicy := ⟨Span.ofSeconds 1, Span.ofSeconds 2, none⟩

def unavailable (body : Bytes) : Except Error Response := .ok { status := 503, body := body }

/-- Surroundings in which a server says that it will be back later. -/
def whileUnavailable : Answers
  | .attempt _ => unavailable (Bytes.ofString "later")
  | query => Answers.bare query

/-- The call goes the same way if the server says nothing the second time. -/
theorem refusal_told_by_status_unavailable :
    let call := patientPolicy.execute Program.attempt fetch
    let trace := call.askAll whileUnavailable
    let calls := [(fetch, unavailable (Bytes.ofString "later")), (fetch, unavailable [])]
    call.Runs trace (call.answerAll whileUnavailable) ∧ SameCalls (callsOf trace) calls ∧
      HasTwin call trace (call.answerAll whileUnavailable) calls := by
  intro call trace calls
  have hruns := runs_askAll whileUnavailable call
  have hcalls : callsOf trace = List.replicate 2 (fetch, unavailable (Bytes.ofString "later")) := by
    decide +kernel
  have hsame : SameCalls (callsOf trace) calls := by
    rw [hcalls]
    exact .cons ⟨rfl, .same _⟩ (.cons ⟨rfl, .refused rfl rfl (by decide)⟩ .nil)
  have htold := refusal_told_by_status.2.2 patientPolicy rfl
  exact ⟨hruns, hsame, htold.2 fetch trace _ calls hruns hsame⟩

end RetryPolicy

end ControlPlane
