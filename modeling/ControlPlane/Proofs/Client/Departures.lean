import ControlPlane.Proofs.Client.Attempts
import ControlPlane.Proofs.Program.Course
import ControlPlane.Proofs.Retry.Bounds

/-!
# When the attempts of an exchange start

The retries of one request take a course of events along a timeline: what they are answered is what
the next turns of the world say of an attempt of that request. So the bounds on retries hold of
every exchange, wherever on a course it begins.
-/

namespace ControlPlane

open Program

variable {α : Type}

/-- Whatever is done, the attempts so far stay on record. -/
theorem Timeline.starts_prefix_play (script : Nat → Sending) (others : Answers)
    (program : Program α) (timeline : Timeline) :
    timeline.starts <+: (play script others program timeline).2.starts := by
  induction program generalizing timeline with
  | done value => exact List.prefix_rfl
  | ask query resume ih =>
      have hstep : timeline.starts <+: (answer script others query timeline).2.starts := by
        cases query with
        | attempt request => exact List.prefix_append _ _
        | _ => exact List.prefix_rfl
      exact hstep.trans (ih _ _)

theorem Request.copy?_of_body_ne {request : Request} (h : request.body ≠ .streamed) :
    request.copy? = some request := by
  unfold copy?
  split
  · next hstreamed => exact absurd hstreamed h
  · rfl

/-- The first attempt of a call starts at once. -/
theorem RetryPolicy.head?_starts_call (policy : RetryPolicy) {request copy : Request}
    (hcopy : request.copy? = some copy) (script : Nat → Sending) (others : Answers)
    (started : Span) :
    (policy.call request script others started).2.starts.head? = some started := by
  have hone := one_le_maxAttempts policy
  have hcount : 1 + (policy.maxAttempts - 1) = policy.maxAttempts := by omega
  rw [call, execute, Timeline.play_bind, Timeline.play_steadyClock]
  simp only [hcopy]
  rw [attemptFrom_eq hcount, Timeline.play_bind, Timeline.play_attempt]
  -- What follows the first attempt is appended to its start.
  obtain ⟨rest, hrest⟩ := Timeline.starts_prefix_play script others _
    (Timeline.attempted { clock := started } script)
  rw [← hrest]
  rfl

/-- The course when retries of a request that began on it have come along a timeline. -/
def Course.along (course : Course) (request : Request) (timeline : Timeline) : Course where
  clock := timeline.clock
  turns := course.turns + timeline.starts.length
  departures := course.departures ++ timeline.starts.map fun start => ⟨start, request⟩

namespace World

variable (world : World) (course : Course) {request : Request}

/-- What the turns from this one on say of attempts of one request. -/
def sendings (request : Request) (turns : Nat) : Nat → Sending := fun index =>
  ⟨(world.script (turns + index)).answers (.attempt request), (world.script (turns + index)).length⟩

theorem answer_along {query : Query} (h : RetryPolicy.Allows request query) (others : Answers)
    (timeline : Timeline) :
    world.answer query (course.along request timeline) =
      ((Timeline.answer (world.sendings request course.turns) others query timeline).1,
        course.along request
          (Timeline.answer (world.sendings request course.turns) others query timeline).2) := by
  cases query with
  | attempt sent =>
      obtain rfl : sent = request := h
      simp [answer, turn, Timeline.answer, Course.along, Course.departed, Course.turned,
        Course.waited, Timeline.attempted, sendings, Nat.add_assoc]
  | steadyClock => rfl
  | sleep span => rfl
  | log level line => rfl
  | _ => exact h.elim

/-- Retries of one request see no more of a world than its next turns. -/
theorem play_along {program : Program α} (h : program.Asks (RetryPolicy.Allows request))
    (others : Answers) (timeline : Timeline) :
    world.play program (course.along request timeline) =
      ((Timeline.play (world.sendings request course.turns) others program timeline).1,
        course.along request
          (Timeline.play (world.sendings request course.turns) others program timeline).2) := by
  induction program generalizing timeline with
  | done value => rfl
  | ask query resume ih =>
      rw [play_ask, answer_along world course h.1 others]
      exact ih _ (h.2 _) _

theorem play_execute (policy : RetryPolicy) (request : Request) (others : Answers) :
    world.play (policy.execute Program.attempt request) course =
      ((policy.call request (world.sendings request course.turns) others course.clock).1,
        course.along request
          (policy.call request (world.sendings request course.turns) others course.clock).2) := by
  have hstart : course.along request { clock := course.clock } = course := by
    simp [Course.along]
  have halong := world.play_along course (RetryPolicy.asks_execute policy request) others
    { clock := course.clock }
  rw [hstart] at halong
  exact halong

/-- **When attempts start.** An exchange makes all its attempts with its one request, the first at
once and the others within the budget. -/
theorem departures_exchange (client : Client) (hreplay : request.body ≠ .streamed) :
    ∃ starts : List Span,
      (world.play (client.exchange request) course).2.departures =
        course.departures ++ starts.map (fun start => ⟨start, request⟩) ∧
      starts.head? = some course.clock ∧
      ∀ start ∈ starts, start.nanos ≤ course.clock.nanos + client.retry.budget.nanos := by
  have hcopy := Request.copy?_of_body_ne hreplay
  have hbounded : RetryPolicy.Bounded client.retry request (world.sendings request course.turns)
      course.clock _ (client.retry.call request (world.sendings request course.turns) .bare
        course.clock).2 := RetryPolicy.bounded_call hcopy
  refine ⟨_, ?_, client.retry.head?_starts_call hcopy _ .bare _, hbounded.starts_in_budget⟩
  unfold Client.exchange
  simp only [play_bind, play_debug, world.play_execute course client.retry request .bare]
  cases (client.retry.call request (world.sendings request course.turns) .bare course.clock).1 with
  | error error => rfl
  | ok response => rfl

end World

end ControlPlane
