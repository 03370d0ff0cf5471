import ControlPlane.Retry

/-!
# After an attempt

What follows an attempt goes by its class alone: the call is over unless the attempt is to be
retried, and then either no attempt is left, or the clock decides. The number of an attempt and the
attempts left after it come to the same sum throughout, so the loop stops by count exactly when the
number of the attempt is the largest there may be.
-/

namespace ControlPlane.RetryPolicy

variable {policy : RetryPolicy} {request : Request} {started : Span} {attempt : Nat}
  {again? : Option (Unit → Program (Except Error Response))} {outcome : Except Error Response}

theorem error_of_classify {method : Method} (h : policy.classify method outcome = .retry) :
    ∃ error, outcome = .error error := by
  cases outcome with
  | ok response => simp [classify] at h
  | error error => exact ⟨error, rfl⟩

theorem settle_of_classify_ne (h : policy.classify request.method outcome ≠ .retry) :
    policy.settle request started attempt again? outcome = .done outcome := by
  unfold settle
  split
  · next hclass => exact absurd hclass h
  · rfl

theorem settle_none {error : Error}
    (h : policy.classify request.method (.error error) = .retry) :
    policy.settle request started attempt none (.error error) =
      giveUp request attempt (.error error) := by
  simp [settle, h]

theorem settle_some {error : Error} {again : Unit → Program (Except Error Response)}
    (h : policy.classify request.method (.error error) = .retry) :
    policy.settle request started attempt (some again) (.error error) =
      policy.waitAndRetry request started attempt error again := by
  simp [settle, h]

/-- The loop by its count: an attempt of the largest number is the last. -/
theorem attemptFrom_eq {inner : Inner} {left : Nat} (hcount : attempt + left = policy.maxAttempts) :
    policy.attemptFrom inner request started attempt left =
      inner request >>= fun raw =>
        policy.settle request started attempt
          (if policy.maxAttempts ≤ attempt then none
            else some fun _ => policy.attemptFrom inner request started (attempt + 1) (left - 1))
          (judge raw) := by
  cases left with
  | zero => rw [if_pos (by omega), attemptFrom]
  | succ left => rw [if_neg (by omega), attemptFrom, Nat.add_sub_cancel]

end ControlPlane.RetryPolicy
