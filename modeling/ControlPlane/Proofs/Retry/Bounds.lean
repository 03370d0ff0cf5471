import ControlPlane.Proofs.Program.Outcome
import ControlPlane.Proofs.Retry.Attempt
import ControlPlane.Proofs.Retry.Limit
import ControlPlane.Proofs.Retry.Timeline

/-!
# How long retries go on

Before each attempt of a call the attempts so far have all failed, each was followed by one wait, and
the clock is still within the budget: that is `Paced`. An attempt that is followed by another keeps
it, and from it follows what holds when the call is over.
-/

namespace ControlPlane.RetryPolicy

open Timeline

variable {policy : RetryPolicy} {request : Request} {script : Nat → Sending} {others : Answers}
  {started : Span} {timeline : Timeline}

def verdict (script : Nat → Sending) (index : Nat) : Except Error Response :=
  judge (script index).answer

/-- The line after the attempt of this index, if another follows. -/
def lineAfter (policy : RetryPolicy) (request : Request) (script : Nat → Sending) (index : Nat) :
    String :=
  match verdict script index with
  | .error error => policy.retryLine request (index + 1) error
  | .ok _ => ""

/-- The time that the first attempts took, without the waits between them. -/
def timeSending (script : Nat → Sending) : Nat → Nat
  | 0 => 0
  | count + 1 => timeSending script count + (script count).length.nanos

/-- The timeline once the attempt that is due and the wait after it are over. -/
def goOn (policy : RetryPolicy) (request : Request) (script : Nat → Sending)
    (timeline : Timeline) : Timeline :=
  ((timeline.attempted script).logged
    (policy.lineAfter request script timeline.starts.length)).waited policy.wait

@[simp]
theorem length_starts_goOn (policy : RetryPolicy) (request : Request) (script : Nat → Sending)
    (timeline : Timeline) :
    (policy.goOn request script timeline).starts.length = timeline.starts.length + 1 := by
  simp [goOn, attempted, logged, waited]

/-- A call that is about to make an attempt. -/
structure Paced (policy : RetryPolicy) (request : Request) (script : Nat → Sending) (started : Span)
    (timeline : Timeline) : Prop where
  slept : timeline.slept.nanos = timeline.starts.length * policy.wait.nanos
  elapsed : timeline.clock.nanos =
    started.nanos + timeline.slept.nanos + timeSending script timeline.starts.length
  in_budget : timeline.clock.nanos ≤ started.nanos + policy.budget.nanos
  starts_in_budget : ∀ start ∈ timeline.starts,
    start.nanos ≤ started.nanos + policy.budget.nanos
  lines : timeline.lines =
    (List.range timeline.starts.length).map (policy.lineAfter request script)

/-- A call that is over, with its outcome and its timeline. -/
structure Bounded (policy : RetryPolicy) (request : Request) (script : Nat → Sending)
    (started : Span) (outcome : Except Error Response) (last : Timeline) : Prop where
  at_least : 1 ≤ last.starts.length
  at_most : last.starts.length ≤ policy.maxAttempts
  fits : last.starts.length ≤ 4294967295
  last_verdict : outcome = verdict script (last.starts.length - 1)
  /-- There was one wait between any two attempts. -/
  slept : last.slept.nanos = (last.starts.length - 1) * policy.wait.nanos
  elapsed : last.clock.nanos =
    started.nanos + last.slept.nanos + timeSending script last.starts.length
  /-- Every attempt started within the budget. -/
  starts_in_budget : ∀ start ∈ last.starts, start.nanos ≤ started.nanos + policy.budget.nanos
  within : last.clock.nanos ≤
    started.nanos + policy.budget.nanos + (script (last.starts.length - 1)).length.nanos
  /-- The call gives up only when no attempt is left or the budget does not hold one more wait. -/
  not_early : policy.classify request.method outcome = .retry →
    last.starts.length = policy.maxAttempts ∨
      policy.budget.nanos < last.clock.nanos - started.nanos + policy.wait.nanos
  /-- The log counts the attempts. -/
  lines : last.lines =
    (List.range (last.starts.length - 1)).map (policy.lineAfter request script) ++
      if policy.classify request.method outcome = .retry then
        [giveUpLine request last.starts.length] else []

theorem paced_start (policy : RetryPolicy) (request : Request) (script : Nat → Sending)
    (started : Span) : Paced policy request script started { clock := started } where
  slept := by simp [Span.zero]
  elapsed := by simp [Span.zero, timeSending]
  in_budget := Nat.le_add_right _ _
  starts_in_budget := by simp
  lines := rfl

/-- **One attempt.** It is followed by a wait and another, or the call is over. -/
theorem play_attemptFrom {left : Nat}
    (hcount : timeline.starts.length + 1 + left = policy.maxAttempts) :
    play script others
        (policy.attemptFrom Program.attempt request started (timeline.starts.length + 1) left)
        timeline =
      if policy.classify request.method (verdict script timeline.starts.length) = .retry then
        if policy.maxAttempts ≤ timeline.starts.length + 1 ∨
            policy.budget.nanos <
              (timeline.attempted script).clock.nanos - started.nanos + policy.wait.nanos then
          (verdict script timeline.starts.length,
            (timeline.attempted script).logged (giveUpLine request (timeline.starts.length + 1)))
        else
          play script others
            (policy.attemptFrom Program.attempt request started (timeline.starts.length + 1 + 1)
              (left - 1))
            (policy.goOn request script timeline)
      else
        (verdict script timeline.starts.length, timeline.attempted script) := by
  rw [attemptFrom_eq hcount, play_bind, play_attempt, ← verdict]
  by_cases hclass :
    policy.classify request.method (verdict script timeline.starts.length) = .retry
  · obtain ⟨error, herror⟩ := error_of_classify hclass
    rw [if_pos hclass, herror]
    rw [herror] at hclass
    by_cases hlimit : policy.maxAttempts ≤ timeline.starts.length + 1
    · rw [if_pos hlimit, if_pos (.inl hlimit), settle_none hclass, giveUp, play_bind, play_warn]
      rfl
    · rw [if_neg hlimit, settle_some hclass, waitAndRetry, play_bind, play_steadyClock, backoff]
      simp only [hlimit, false_or]
      split
      · rw [giveUp, play_bind, play_warn]
        rfl
      · rw [play_bind, play_info, play_bind, play_sleep, goOn, lineAfter, herror]
  · rw [if_neg hclass, settle_of_classify_ne hclass, play_done]

theorem Paced.next (h : Paced policy request script started timeline)
    (hbudget : (timeline.attempted script).clock.nanos - started.nanos +
      policy.wait.nanos ≤ policy.budget.nanos) :
    Paced policy request script started (policy.goOn request script timeline) := by
  have hslept := h.slept
  have helapsed := h.elapsed
  have hin := h.in_budget
  simp only [attempted] at hbudget
  constructor
  case slept =>
    rw [length_starts_goOn, Nat.succ_mul, ← hslept]
    rfl
  case elapsed =>
    rw [length_starts_goOn, timeSending]
    simp only [goOn, attempted, logged, waited]
    omega
  case in_budget =>
    -- This is what the test before the wait was for.
    simp only [goOn, attempted, logged, waited]
    omega
  case starts_in_budget =>
    simp only [goOn, attempted, logged, waited, List.forall_mem_append]
    exact ⟨h.starts_in_budget, by simpa using hin⟩
  case lines =>
    rw [length_starts_goOn, List.range_succ, List.map_append, ← h.lines]
    rfl

theorem Paced.bounded (h : Paced policy request script started timeline) {last : Timeline}
    {outcome : Except Error Response} (hcount : timeline.starts.length < policy.maxAttempts)
    (houtcome : outcome = verdict script timeline.starts.length)
    (hlast : last = if policy.classify request.method outcome = .retry then
        (timeline.attempted script).logged
          (giveUpLine request (timeline.starts.length + 1))
      else timeline.attempted script)
    (hstop : policy.classify request.method outcome = .retry →
      policy.maxAttempts ≤ timeline.starts.length + 1 ∨
        policy.budget.nanos < (timeline.attempted script).clock.nanos -
          started.nanos + policy.wait.nanos) :
    Bounded policy request script started outcome last := by
  have hstarts : last.starts = timeline.starts ++ [timeline.clock] := by
    rw [hlast]
    split <;> rfl
  have hclock : last.clock.nanos =
      timeline.clock.nanos + (script timeline.starts.length).length.nanos := by
    rw [hlast]
    split <;> rfl
  have hslept : last.slept = timeline.slept := by
    rw [hlast]
    split <;> rfl
  have hlength : last.starts.length = timeline.starts.length + 1 := by simp [hstarts]
  have helapsed := h.elapsed
  have hin := h.in_budget
  constructor
  case at_least => omega
  case at_most => omega
  case fits =>
    have hlimit := maxAttempts_le policy
    omega
  case last_verdict => rw [hlength, Nat.add_sub_cancel, houtcome]
  case slept => rw [hlength, Nat.add_sub_cancel, hslept, h.slept]
  case elapsed =>
    rw [hlength, timeSending, hslept]
    omega
  case starts_in_budget =>
    rw [hstarts, List.forall_mem_append]
    exact ⟨h.starts_in_budget, by simpa using hin⟩
  case within =>
    rw [hlength, Nat.add_sub_cancel]
    omega
  case not_early =>
    intro hclass
    have hstop := hstop hclass
    simp only [attempted] at hstop
    omega
  case lines =>
    rw [hlength, Nat.add_sub_cancel, hlast, ← h.lines]
    split
    · rfl
    · rw [List.append_nil, attempted]

theorem Paced.play_bounded (h : Paced policy request script started timeline) {left : Nat}
    (hcount : timeline.starts.length + 1 + left = policy.maxAttempts) :
    Bounded policy request script started
      (play script others
        (policy.attemptFrom Program.attempt request started (timeline.starts.length + 1) left)
        timeline).1
      (play script others
        (policy.attemptFrom Program.attempt request started (timeline.starts.length + 1) left)
        timeline).2 := by
  induction left generalizing timeline with
  | zero =>
      rw [play_attemptFrom hcount]
      split
      · next hclass =>
          -- No attempt is left, whatever the clock says.
          rw [if_pos (.inl (by omega))]
          exact h.bounded (by omega) rfl (by rw [if_pos hclass]) fun _ => .inl (by omega)
      · next hclass => exact h.bounded (by omega) rfl (by rw [if_neg hclass]) (absurd · hclass)
  | succ left ih =>
      rw [play_attemptFrom hcount]
      split
      · next hclass =>
          split
          · next hstop => exact h.bounded (by omega) rfl (by rw [if_pos hclass]) fun _ => hstop
          · next hgo =>
              rw [not_or, Nat.not_lt] at hgo
              have hnext := ih (h.next hgo.2) (by rw [length_starts_goOn]; omega)
              rwa [length_starts_goOn] at hnext
      · next hclass => exact h.bounded (by omega) rfl (by rw [if_neg hclass]) (absurd · hclass)

/-! ### Whole calls -/

/-- A call that starts by this clock: its outcome, and the timeline at its end. -/
def call (policy : RetryPolicy) (request : Request) (script : Nat → Sending) (others : Answers)
    (started : Span) : Except Error Response × Timeline :=
  play script others (policy.execute Program.attempt request) { clock := started }

theorem bounded_call {copy : Request} (hcopy : request.copy? = some copy) :
    Bounded policy request script started (policy.call request script others started).1
      (policy.call request script others started).2 := by
  have hone := one_le_maxAttempts policy
  obtain rfl := Request.copy?_eq hcopy
  rw [call, execute, play_bind, play_steadyClock]
  simp only [hcopy]
  exact (paced_start policy copy script started).play_bounded
    (show 0 + 1 + (policy.maxAttempts - 1) = policy.maxAttempts by omega)

theorem timeSending_of_instant (hinstant : ∀ index, (script index).length = Span.zero)
    (count : Nat) : timeSending script count = 0 := by
  induction count with
  | zero => rfl
  | succ count ih => rw [timeSending, ih, hinstant]; rfl

/-- **As many attempts as the budget holds waits.** If all attempts fail at once and are to be
retried, both rules agree on when to stop. -/
theorem Bounded.length_of_instant {last : Timeline} {outcome : Except Error Response}
    (h : Bounded policy request script started outcome last)
    (hinstant : ∀ index, (script index).length = Span.zero)
    (hclass : policy.classify request.method outcome = .retry) {millis : Nat}
    (hwait : policy.wait = Span.ofMillis millis) (hpositive : 0 < millis) :
    last.starts.length =
      min (max 1 (policy.budget.nanos / policy.wait.nanos)) 4294967295 := by
  have hlimit := maxAttempts_ofMillis hwait hpositive
  have hnanos : 0 < policy.wait.nanos := by
    rw [hwait, Span.ofMillis]
    exact Nat.mul_pos hpositive (by decide)
  have hclock : last.clock.nanos = started.nanos + last.slept.nanos := by
    rw [h.elapsed, timeSending_of_instant hinstant, Nat.add_zero]
  have hat_least := h.at_least
  have hat_most := h.at_most
  rcases h.not_early hclass with hlast | hspent
  · rw [hlast, hlimit]
  · have hwaits : last.clock.nanos - started.nanos + policy.wait.nanos =
        last.starts.length * policy.wait.nanos := by
      calc last.clock.nanos - started.nanos + policy.wait.nanos
          = (last.starts.length - 1) * policy.wait.nanos + policy.wait.nanos := by
            rw [hclock, Nat.add_sub_cancel_left, h.slept]
        _ = (last.starts.length - 1 + 1) * policy.wait.nanos := (Nat.succ_mul _ _).symm
        _ = last.starts.length * policy.wait.nanos := by rw [Nat.sub_add_cancel hat_least]
    rw [hwaits, ← Nat.div_lt_iff_lt_mul hnanos] at hspent
    omega

/-- **Retries stay within their bounds.** Whatever the attempts come to and however long they take. -/
theorem execute_bounded (policy : RetryPolicy) {request : Request} (script : Nat → Sending)
    (others : Answers) (started : Span) {millis : Nat}
    (hwait : policy.wait = Span.ofMillis millis) (hpositive : 0 < millis)
    (hreplay : request.copy?.isSome) :
    Bounded policy request script started (policy.call request script others started).1
        (policy.call request script others started).2 ∧
      ((∀ index, (script index).length = Span.zero ∧
          policy.classify request.method (verdict script index) = .retry) →
        (policy.call request script others started).2.starts.length =
          min (max 1 (policy.budget.nanos / policy.wait.nanos)) 4294967295) := by
  obtain ⟨copy, hcopy⟩ := Option.isSome_iff_exists.mp hreplay
  have h : Bounded policy request script started (policy.call request script others started).1
      (policy.call request script others started).2 := bounded_call hcopy
  refine ⟨h, fun hfails => ?_⟩
  refine h.length_of_instant (fun index => (hfails index).1) ?_ hwait hpositive
  rw [h.last_verdict]
  exact (hfails _).2

/-- A wait that fits twice into its budget. -/
def briefPolicy : RetryPolicy := ⟨Span.ofMillis 10, Span.ofMillis 25, none⟩

theorem execute_bounded_brief :
    (briefPolicy.call { method := .get, url := { scheme := "a" } }
      (fun _ => ⟨.error (.http (.unsent "a")), Span.zero⟩) .bare Span.zero).2.starts.length = 2 :=
  (execute_bounded briefPolicy _ .bare Span.zero rfl (by decide) rfl).2 fun _ => ⟨rfl, rfl⟩

end ControlPlane.RetryPolicy
