import ControlPlane.Client
import ControlPlane.Proofs.Program.Effects
import ControlPlane.Proofs.Retry.Attempt

/-!
# The attempts of a run

In a run of a request with its retries there are no more attempts than the policy allows, and each
but the last came to a failure that is to be retried. Part of such a run is no different.
-/

namespace ControlPlane

open Program

/-- An attempt, and what it was answered. -/
def Asked.call? : Asked → Option (Request × Except Error Response)
  | ⟨.attempt request, answer⟩ => some (request, answer)
  | _ => none

/-- The attempts of a run with their answers, in order. -/
def callsOf (trace : List Asked) : List (Request × Except Error Response) :=
  trace.filterMap Asked.call?

/-- What an attempt came to. -/
def Asked.verdict? : Asked → Option (Except Error Response)
  | ⟨.attempt _, answer⟩ => some (judge answer)
  | _ => none

/-- What the attempts of a run came to, in order. -/
def verdictsOf (trace : List Asked) : List (Except Error Response) :=
  trace.filterMap Asked.verdict?

@[simp]
theorem verdictsOf_append (first second : List Asked) :
    verdictsOf (first ++ second) = verdictsOf first ++ verdictsOf second :=
  List.filterMap_append ..

theorem verdictsOf_eq_map (trace : List Asked) :
    verdictsOf trace = (callsOf trace).map fun call => judge call.2 := by
  rw [verdictsOf, callsOf, List.map_filterMap]
  congr
  funext ⟨query, answer⟩
  cases query <;> rfl

theorem attemptsOf_eq_map (trace : List Asked) : attemptsOf trace = (callsOf trace).map Prod.fst := by
  rw [attemptsOf, callsOf, List.map_filterMap]
  congr
  funext ⟨query, answer⟩
  cases query <;> rfl

theorem length_attemptsOf (trace : List Asked) :
    (attemptsOf trace).length = (verdictsOf trace).length := by
  rw [attemptsOf_eq_map, verdictsOf_eq_map, List.length_map, List.length_map]

theorem verdictsOf_line {level : Level} {line : String} {α : Type} {value result : α}
    {trace : List Asked}
    (h : (query (.log level line) >>= fun _ => Program.done value).Runs trace result) :
    verdictsOf trace = [] := by
  obtain ⟨_, _, _, rfl, hlog, hdone⟩ := runs_bind_iff.mp h
  obtain rfl := runs_query_iff.mp hlog
  obtain ⟨rfl, -⟩ := runs_done_iff.mp hdone
  rfl

namespace RetryPolicy

variable {policy : RetryPolicy} {request : Request} {method : Method} {started : Span}
  {number left : Nat} {trace first second : List Asked}
  {outcome result : Except Error Response}

/-- The attempts of a run, which may be not over yet, keep to a policy. -/
structure Keeps (policy : RetryPolicy) (method : Method) (limit : Nat) (trace : List Asked) :
    Prop where
  bounded : (verdictsOf trace).length ≤ limit
  transient : (verdictsOf trace).Pairwise fun earlier _ => policy.classify method earlier = .retry

variable {limit : Nat}

theorem keeps_of_verdictsOf_eq_nil (h : verdictsOf trace = []) :
    Keeps policy method limit trace where
  bounded := by simp [h]
  transient := by simp [h]

theorem Keeps.congr (h : Keeps policy method limit second)
    (hverdicts : verdictsOf first = verdictsOf second) : Keeps policy method limit first where
  bounded := hverdicts ▸ h.bounded
  transient := hverdicts ▸ h.transient

theorem Keeps.of_append (h : Keeps policy method limit (first ++ second)) :
    Keeps policy method limit first := by
  obtain ⟨hbounded, htransient⟩ := h
  rw [verdictsOf_append] at hbounded htransient
  rw [List.length_append] at hbounded
  exact ⟨by omega, (List.pairwise_append.mp htransient).1⟩

theorem Keeps.length_le_one (h : Keeps policy method limit trace)
    (hfinal : ∀ verdict ∈ verdictsOf trace, policy.classify method verdict ≠ .retry) :
    (verdictsOf trace).length ≤ 1 := by
  obtain ⟨-, htransient⟩ := h
  generalize verdictsOf trace = verdicts at hfinal htransient
  match verdicts, htransient with
  | [], _ => simp
  | [_], _ => simp
  | verdict :: next :: rest, htransient =>
      have hretry := (List.pairwise_cons.mp htransient).1 next (List.mem_cons_self ..)
      exact absurd hretry (hfinal verdict (List.mem_cons_self ..))

theorem waitAndRetry_eq (policy : RetryPolicy) (request : Request) (started : Span) (number : Nat)
    (error : Error) (again : Unit → Program (Except Error Response)) :
    policy.waitAndRetry request started number error again =
      .ask .steadyClock fun now =>
        if policy.budget.nanos < now.nanos - started.nanos + policy.wait.nanos then
          .ask (.log .warn (giveUpLine request number)) fun _ => .done (.error error)
        else
          .ask (.log .info (policy.retryLine request number error)) fun _ =>
            .ask (.sleep policy.wait) fun _ => again () := rfl

/-- After a failure that is to be retried the clock is read. Either the budget does not hold one more
wait, and the call is over, or there is one, and what follows it. -/
theorem runs_waitAndRetry_iff {error : Error} {again : Unit → Program (Except Error Response)} :
    (policy.waitAndRetry request started number error again).Runs trace result ↔
      ∃ now : Span,
        (policy.budget.nanos < now.nanos - started.nanos + policy.wait.nanos ∧
          trace = [⟨.steadyClock, now⟩, ⟨.log .warn (giveUpLine request number), ()⟩] ∧
          result = .error error) ∨
        (¬ policy.budget.nanos < now.nanos - started.nanos + policy.wait.nanos ∧
          ∃ later, trace = ⟨.steadyClock, now⟩ ::
              ⟨.log .info (policy.retryLine request number error), ()⟩ ::
              ⟨.sleep policy.wait, ()⟩ :: later ∧
            (again ()).Runs later result) := by
  rw [waitAndRetry_eq, runs_ask_iff]
  refine exists_congr fun now => ?_
  split
  · next hspent =>
      simp only [hspent, true_and, not_true_eq_false, false_and, or_false]
      constructor
      · rintro ⟨later, rfl, hlater⟩
        obtain ⟨_, rest, rfl, hrest⟩ := runs_ask_iff.mp hlater
        obtain ⟨rfl, rfl⟩ := runs_done_iff.mp hrest
        exact ⟨rfl, rfl⟩
      · rintro ⟨rfl, rfl⟩
        exact ⟨_, rfl, runs_ask_iff.mpr ⟨(), [], rfl, .done _⟩⟩
  · next hleft =>
      simp only [hleft, false_and, not_false_eq_true, true_and, false_or]
      constructor
      · rintro ⟨later, rfl, hlater⟩
        obtain ⟨_, waiting, rfl, hwaiting⟩ := runs_ask_iff.mp hlater
        obtain ⟨_, rest, rfl, hrest⟩ := runs_ask_iff.mp hwaiting
        exact ⟨rest, rfl, hrest⟩
      · rintro ⟨rest, rfl, hrest⟩
        exact ⟨_, rfl, runs_ask_iff.mpr ⟨(), _, rfl, runs_ask_iff.mpr ⟨(), rest, rfl, hrest⟩⟩⟩

/-- After an attempt the call is over, or the attempt is to be retried and the next one follows. -/
theorem runs_settle {again? : Option (Unit → Program (Except Error Response))}
    (h : (policy.settle request started number again? outcome).Runs trace result) :
    callsOf trace = [] ∧ result = outcome ∨ policy.classify request.method outcome = .retry ∧
      ∃ again ∈ again?, ∃ later, (again ()).Runs later result ∧
        callsOf trace = callsOf later := by
  by_cases hclass : policy.classify request.method outcome = .retry
  · obtain ⟨error, rfl⟩ := error_of_classify hclass
    cases again? with
    | none =>
        rw [settle_none hclass] at h
        obtain ⟨_, rest, rfl, hrest⟩ := runs_ask_iff.mp h
        obtain ⟨rfl, rfl⟩ := runs_done_iff.mp hrest
        exact .inl ⟨rfl, rfl⟩
    | some again =>
        rw [settle_some hclass] at h
        obtain ⟨now, ⟨-, rfl, rfl⟩ | ⟨-, later, rfl, hlater⟩⟩ := runs_waitAndRetry_iff.mp h
        · exact .inl ⟨rfl, rfl⟩
        · exact .inr ⟨hclass, again, rfl, later, hlater, rfl⟩
  · rw [settle_of_classify_ne hclass] at h
    obtain ⟨rfl, rfl⟩ := runs_done_iff.mp h
    exact .inl ⟨rfl, rfl⟩

theorem Keeps.cons {rest : List Asked} (raw : Except Error Response)
    (h : Keeps policy request.method limit rest)
    (hretry : verdictsOf rest ≠ [] → policy.classify request.method (judge raw) = .retry) :
    Keeps policy request.method (limit + 1) (⟨.attempt request, raw⟩ :: rest) := by
  have hverdicts : verdictsOf (⟨.attempt request, raw⟩ :: rest) = judge raw :: verdictsOf rest :=
    rfl
  constructor
  · rw [hverdicts]
    exact Nat.succ_le_succ h.bounded
  · rw [hverdicts, List.pairwise_cons]
    exact ⟨fun _ hmem => hretry (List.ne_nil_of_mem hmem), h.transient⟩

theorem keeps_attemptFrom
    (h : (policy.attemptFrom Program.attempt request started number left).Runs trace result) :
    Keeps policy request.method (left + 1) trace := by
  -- `left` counts the attempts that may follow this one.
  have hquiet {rest : List Asked} (hnone : callsOf rest = []) : verdictsOf rest = [] := by
    rw [verdictsOf_eq_map, hnone, List.map_nil]
  induction left generalizing number trace with
  | zero =>
      obtain ⟨_, raw, rest, rfl, hattempt, hrest⟩ := runs_bind_iff.mp h
      obtain rfl := runs_query_iff.mp hattempt
      rcases runs_settle hrest with ⟨hnone, -⟩ | ⟨-, again, hagain, -⟩
      · exact .cons raw (keeps_of_verdictsOf_eq_nil (hquiet hnone)) (absurd (hquiet hnone))
      · cases hagain
  | succ left ih =>
      obtain ⟨_, raw, rest, rfl, hattempt, hrest⟩ := runs_bind_iff.mp h
      obtain rfl := runs_query_iff.mp hattempt
      rcases runs_settle hrest with ⟨hnone, -⟩ | ⟨hretry, again, ⟨⟩, later, hlater, hcalls⟩
      · exact .cons raw (keeps_of_verdictsOf_eq_nil (hquiet hnone)) (absurd (hquiet hnone))
      · have hverdicts : verdictsOf rest = verdictsOf later := by
          rw [verdictsOf_eq_map, verdictsOf_eq_map, hcalls]
        exact .cons raw ((ih hlater).congr hverdicts) fun _ => hretry

theorem keeps_execute (h : (policy.execute Program.attempt request).Runs trace result) :
    Keeps policy request.method policy.maxAttempts trace := by
  have hone := one_le_maxAttempts policy
  obtain ⟨_, started, rest, rfl, hclock, hrest⟩ := runs_bind_iff.mp h
  obtain rfl := runs_query_iff.mp hclock
  cases hcopy : request.copy? with
  | none =>
      rw [hcopy] at hrest
      obtain ⟨rfl, -⟩ := runs_done_iff.mp hrest
      exact keeps_of_verdictsOf_eq_nil rfl
  | some copy =>
      obtain rfl := Request.copy?_eq hcopy
      rw [hcopy] at hrest
      obtain ⟨hbounded, htransient⟩ := keeps_attemptFrom hrest
      exact ⟨Nat.le_trans hbounded (by omega), htransient⟩

end RetryPolicy

/-- **Attempts keep to the policy.** In every run of an exchange. -/
theorem Client.keeps_exchange {client : Client} {request : Request} {trace : List Asked}
    {answer : Except Error Response} (h : (client.exchange request).Runs trace answer) :
    client.retry.Keeps request.method client.retry.maxAttempts trace := by
  obtain ⟨_, _, rest, rfl, hlog, hrest⟩ := runs_bind_iff.mp h
  obtain rfl := runs_query_iff.mp hlog
  obtain ⟨attempts, result, last, rfl, hattempts, hlast⟩ := runs_bind_iff.mp hrest
  have hline : verdictsOf last = [] := by
    cases result <;> exact verdictsOf_line hlast
  refine (RetryPolicy.keeps_execute hattempts).congr ?_
  rw [verdictsOf_append, verdictsOf_append, hline, List.append_nil]
  rfl

end ControlPlane
