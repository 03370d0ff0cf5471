import ControlPlane.Proofs.Program.Relay
import ControlPlane.Proofs.Retry.Runs

/-!
# What a call with retries comes to

Each attempt gets the request of the call as it is, and only a failure that may pass, and that the
veto lets pass, is followed by another. So the call comes to what its last attempt came to. The veto
has a say in nothing else: another one that judges the transient failures of a run alike makes no
difference to it.
-/

namespace ControlPlane

open Program

namespace RetryPolicy

variable {policy : RetryPolicy} {inner : Inner} {request : Request} {started : Span}
  {number left : Nat} {trace : List Asked} {raw outcome result : Except Error Response}
  {calls : List (Request × Except Error Response)} {veto : Option (Method → Error → Bool)}

/-- What an answer of the transport means: an answer that grants the request is handed on as it is,
any other becomes an error that tells of it, and so does the failure to get one. -/
inductive ComesTo : Except Error Response → Except Error Response → Prop where
  | granted {response : Response} (h : 200 ≤ response.status ∧ response.status < 300) :
      ComesTo (.ok response) (.ok response)
  | refused {response : Response} (h : ¬ (200 ≤ response.status ∧ response.status < 300)) :
      ComesTo (.ok response) (.error (Error.ofResponse response.status response.body))
  | failed (error : Error) : ComesTo (.error error) (.error error)

theorem comesTo_judge (raw : Except Error Response) : ComesTo raw (judge raw) := by
  cases raw with
  | error error => exact .failed error
  | ok response =>
      rw [judge]
      split
      · next hsuccess => exact .granted (by simpa [Response.isSuccess] using hsuccess)
      · next hsuccess => exact .refused (by simpa [Response.isSuccess] using hsuccess)

/-- A failure that is followed by another attempt, if one is left. -/
def Transient (policy : RetryPolicy) (method : Method) (raw : Except Error Response) : Prop :=
  ∃ error, ComesTo raw (.error error) ∧ error.isRetryable = true ∧
    policy.isVetoed method error = false

theorem transient_of_classify {method : Method}
    (h : policy.classify method (judge raw) = .retry) : policy.Transient method raw := by
  obtain ⟨error, herror⟩ := error_of_classify h
  refine ⟨error, herror ▸ comesTo_judge raw, ?_⟩
  rw [herror, classify] at h
  split at h
  · cases h
  · next hretryable =>
      split at h
      · cases h
      · next hveto => exact ⟨by simpa using hretryable, by simpa using hveto⟩

/-! ### The attempts of a call -/

/-- The attempts of a call that has made at least one, with their answers, and what it comes to. -/
inductive Persists (policy : RetryPolicy) (request : Request) :
    List (Request × Except Error Response) → Except Error Response → Prop where
  | last {raw result : Except Error Response} (h : ComesTo raw result) :
      Persists policy request [(request, raw)] result
  | again {raw result : Except Error Response} {calls : List (Request × Except Error Response)}
      (h : policy.Transient request.method raw) (hlater : Persists policy request calls result) :
      Persists policy request ((request, raw) :: calls) result

theorem Persists.same_request (h : Persists policy request calls result) :
    ∀ call ∈ calls, call.1 = request := by
  induction h with
  | last => simp
  | again _ _ ih => simpa using ih

theorem Persists.returns_last (h : Persists policy request calls result) :
    ∃ earlier last, calls = earlier ++ [last] ∧ ComesTo last.2 result ∧
      ∀ call ∈ earlier, policy.Transient request.method call.2 := by
  induction h with
  | @last raw result h => exact ⟨[], (request, raw), rfl, h, by simp⟩
  | again h _ ih =>
      obtain ⟨earlier, last, rfl, hlast, hearlier⟩ := ih
      exact ⟨_ :: earlier, last, rfl, hlast, List.forall_mem_cons.mpr ⟨h, hearlier⟩⟩

theorem persists_attemptFrom
    (h : (policy.attemptFrom Program.attempt request started number left).Runs trace result) :
    policy.Persists request (callsOf trace) result := by
  have hover {rest : List Asked} (hnone : callsOf rest = []) (raw : Except Error Response)
      (hresult : result = judge raw) :
      policy.Persists request (callsOf (⟨.attempt request, raw⟩ :: rest)) result := by
    change policy.Persists request ((request, raw) :: callsOf rest) result
    rw [hnone, hresult]
    exact .last (comesTo_judge raw)
  -- `left` counts the attempts that may follow this one.
  induction left generalizing number trace with
  | zero =>
      obtain ⟨_, raw, rest, rfl, hattempt, hrest⟩ := runs_bind_iff.mp h
      obtain rfl := runs_query_iff.mp hattempt
      rcases runs_settle hrest with ⟨hnone, hresult⟩ | ⟨-, again, hagain, -⟩
      · exact hover hnone raw hresult
      · cases hagain
  | succ left ih =>
      obtain ⟨_, raw, rest, rfl, hattempt, hrest⟩ := runs_bind_iff.mp h
      obtain rfl := runs_query_iff.mp hattempt
      rcases runs_settle hrest with ⟨hnone, hresult⟩ | ⟨hretry, again, ⟨⟩, later, hlater, hcalls⟩
      · exact hover hnone raw hresult
      · change policy.Persists request ((request, raw) :: callsOf rest) result
        rw [hcalls]
        exact .again (transient_of_classify hretry) (ih hlater)

/-! ### The say of the veto -/

def withVeto (policy : RetryPolicy) (veto : Option (Method → Error → Bool)) : RetryPolicy :=
  { policy with veto := veto }

/-- Another veto says the same of an answer, if it may be asked about it. -/
def SaysAlike (policy : RetryPolicy) (veto : Option (Method → Error → Bool)) (method : Method)
    (raw : Except Error Response) : Prop :=
  ∀ error, ComesTo raw (.error error) → error.isRetryable = true →
    (policy.withVeto veto).isVetoed method error = policy.isVetoed method error

theorem settle_withVeto {again? : Option (Unit → Program (Except Error Response))}
    (h : policy.SaysAlike veto request.method raw) :
    (policy.withVeto veto).settle request started number again? (judge raw) =
      policy.settle request started number again? (judge raw) := by
  have hclass : (policy.withVeto veto).classify request.method (judge raw) =
      policy.classify request.method (judge raw) := by
    cases hjudge : judge raw with
    | ok response => rfl
    | error error =>
        have halike := h error (hjudge ▸ comesTo_judge raw)
        rw [classify, classify]
        cases hretryable : error.isRetryable with
        | false => rfl
        | true => rw [halike hretryable]
  unfold settle
  rw [hclass]
  rfl

/-- Only in what follows may the call go on otherwise. -/
theorem runs_settle_of_later {again next : Unit → Program (Except Error Response)}
    (h : (policy.settle request started number (some again) outcome).Runs trace result)
    (hnext : ∀ later, callsOf later = callsOf trace → (again ()).Runs later result →
      (next ()).Runs later result) :
    (policy.settle request started number (some next) outcome).Runs trace result := by
  by_cases hclass : policy.classify request.method outcome = .retry
  · obtain ⟨error, rfl⟩ := error_of_classify hclass
    rw [settle_some hclass, runs_waitAndRetry_iff] at h ⊢
    obtain ⟨now, hspent | ⟨hleft, later, rfl, hlater⟩⟩ := h
    · exact ⟨now, .inl hspent⟩
    · exact ⟨now, .inr ⟨hleft, later, rfl, hnext later rfl hlater⟩⟩
  · rw [settle_of_classify_ne hclass] at h ⊢
    exact h

theorem runs_attemptFrom_withVeto
    (h : (policy.attemptFrom Program.attempt request started number left).Runs trace result)
    (halike : ∀ call ∈ callsOf trace, policy.SaysAlike veto request.method call.2) :
    ((policy.withVeto veto).attemptFrom Program.attempt request started number left).Runs trace
      result := by
  induction left generalizing number trace with
  | zero =>
      obtain ⟨_, raw, rest, rfl, hattempt, hrest⟩ := runs_bind_iff.mp h
      obtain rfl := runs_query_iff.mp hattempt
      refine runs_bind_iff.mpr ⟨_, raw, rest, rfl, hattempt, ?_⟩
      rwa [settle_withVeto (halike (request, raw) (List.mem_cons_self ..))]
  | succ left ih =>
      obtain ⟨_, raw, rest, rfl, hattempt, hrest⟩ := runs_bind_iff.mp h
      obtain rfl := runs_query_iff.mp hattempt
      refine runs_bind_iff.mpr ⟨_, raw, rest, rfl, hattempt, ?_⟩
      rw [settle_withVeto (halike (request, raw) (List.mem_cons_self ..))]
      refine runs_settle_of_later hrest fun later hcalls hlater => ih hlater fun call hcall => ?_
      rw [hcalls] at hcall
      exact halike call (List.mem_cons_of_mem _ hcall)

/-! ### Whole calls -/

/-- What a run of a call shows: the attempts it made, with their answers, and what it came to. -/
structure Replays (policy : RetryPolicy) (request : Request) (trace : List Asked)
    (result : Except Error Response) : Prop where
  same_request : ∀ call ∈ callsOf trace, call.1 = request
  /-- What cannot be copied is not sent at all. -/
  of_streamed : request.copy? = none →
    callsOf trace = [] ∧ result = .error (.other "request body cannot be replayed")
  /-- Else there is a last attempt, and those before it failed for reasons that may pass. -/
  returns_last : request.copy?.isSome → ∃ earlier last, callsOf trace = earlier ++ [last] ∧
    ComesTo last.2 result ∧ ∀ call ∈ earlier, policy.Transient request.method call.2
  /-- A veto has no say but about the transient failures of the run. -/
  consulted : ∀ veto, (∀ call ∈ callsOf trace, policy.SaysAlike veto request.method call.2) →
    ((policy.withVeto veto).execute Program.attempt request).Runs trace result

theorem replays_of_runs (h : (policy.execute Program.attempt request).Runs trace result) :
    Replays policy request trace result := by
  obtain ⟨_, now, rest, rfl, hclock, hrest⟩ := runs_bind_iff.mp h
  obtain rfl := runs_query_iff.mp hclock
  cases hcopy : request.copy? with
  | none =>
      rw [hcopy] at hrest
      obtain ⟨rfl, rfl⟩ := runs_done_iff.mp hrest
      refine ⟨by simp [callsOf, Asked.call?], fun _ => ⟨rfl, rfl⟩, by simp [hcopy], fun veto _ => ?_⟩
      refine runs_bind_iff.mpr ⟨_, now, [], rfl, hclock, ?_⟩
      rw [hcopy]
      exact .done _
  | some copy =>
      obtain rfl := Request.copy?_eq hcopy
      rw [hcopy] at hrest
      have hpersists := persists_attemptFrom hrest
      refine ⟨hpersists.same_request, by simp [hcopy], fun _ => hpersists.returns_last,
        fun veto halike => ?_⟩
      refine runs_bind_iff.mpr ⟨_, now, rest, rfl, hclock, ?_⟩
      rw [hcopy]
      exact runs_attemptFrom_withVeto hrest halike

theorem attemptBy_settle (again? : Option (Unit → Program (Except Error Response))) :
    (policy.settle request started number again? outcome).attemptBy inner =
      policy.settle request started number
        (again?.map fun again _ => (again ()).attemptBy inner) outcome := by
  by_cases hclass : policy.classify request.method outcome = .retry
  · obtain ⟨error, rfl⟩ := error_of_classify hclass
    cases again? with
    | none => rw [Option.map_none, settle_none hclass]; rfl
    | some again =>
        rw [Option.map_some, settle_some hclass, settle_some hclass, waitAndRetry, attemptBy_bind]
        congr
        funext now
        dsimp only
        split <;> rfl
  · rw [settle_of_classify_ne hclass, settle_of_classify_ne hclass, attemptBy_done]

/-- The transport under the retries is used in no other way than to make attempts. -/
theorem attemptBy_execute (policy : RetryPolicy) (inner : Inner) (request : Request) :
    (policy.execute Program.attempt request).attemptBy inner = policy.execute inner request := by
  have hloop (started : Span) (number left : Nat) (copy : Request) :
      (policy.attemptFrom Program.attempt copy started number left).attemptBy inner =
        policy.attemptFrom inner copy started number left := by
    have hattempt : (Program.attempt copy).attemptBy inner = inner copy := bind_done _
    induction left generalizing number with
    | zero =>
        rw [attemptFrom, attemptFrom, attemptBy_bind, hattempt]
        simp only [attemptBy_settle, Option.map_none]
    | succ left ih =>
        rw [attemptFrom, attemptFrom, attemptBy_bind, hattempt]
        simp only [attemptBy_settle, Option.map_some, ih]
  rw [execute, execute, attemptBy_bind]
  congr
  funext started
  cases request.copy? with
  | none => rfl
  | some copy => exact hloop started 1 _ copy

/-- **A call is what its last attempt is.** Whichever transport makes the attempts. -/
theorem execute_replays (policy : RetryPolicy) (inner : Inner) (request : Request) :
    policy.execute inner request = (policy.execute Program.attempt request).attemptBy inner ∧
      ∀ trace result, (policy.execute inner request).Runs trace result →
        ∃ outer, (policy.execute Program.attempt request).Runs outer result ∧
          Relayed inner outer trace ∧ Replays policy request outer result := by
  have hexecute := attemptBy_execute policy inner request
  refine ⟨hexecute.symm, fun trace result h => ?_⟩
  rw [← hexecute, runs_attemptBy_iff] at h
  obtain ⟨outer, houter, hrelayed⟩ := h
  exact ⟨outer, houter, hrelayed, replays_of_runs houter⟩

/-- A policy that leaves posts alone. -/
def cautiousPolicy : RetryPolicy :=
  ⟨Span.ofMillis 10, Span.ofMillis 25, some fun method _ => method = .post⟩

def fetch : Request := { method := .get, url := { scheme := "a" } }

/-- A server that is out of reach is tried twice, for a request that the veto lets pass. -/
theorem execute_replays_unreachable :
    let call := cautiousPolicy.execute Program.attempt fetch
    call.Runs (call.askAll .bare) (.error (.http (.unsent "a:"))) ∧
      callsOf (call.askAll .bare) =
        List.replicate 2 (fetch, .error (.http (.unsent "a:"))) ∧
      ∃ outer, call.Runs outer (.error (.http (.unsent "a:"))) ∧
        Relayed Program.attempt outer (call.askAll .bare) ∧
        Replays cautiousPolicy fetch outer (.error (.http (.unsent "a:"))) := by
  have hruns := runs_askAll .bare (cautiousPolicy.execute Program.attempt fetch)
  exact ⟨hruns, rfl, (execute_replays cautiousPolicy Program.attempt fetch).2 _ _ hruns⟩

end RetryPolicy

end ControlPlane
