import ControlPlane.Retry

/-!
# How many attempts a budget allows

The limit is the quotient of two spans that are counted in whole milliseconds. Cutting the budget
down loses nothing, as a quotient of a quotient is the quotient by the product; cutting the wait down
does. So the limit is the exact quotient by the wait as it is counted, which is shorter than a wait
with a fraction of a millisecond, and longer than one that is below a millisecond.
-/

namespace ControlPlane.RetryPolicy

variable {policy : RetryPolicy} {budget wait longer : Span} {count : Nat}

/-- How often a wait fits into a budget: at least once, and no more often than attempts are
numbered. -/
def fitting (budget wait : Span) : Nat :=
  max 1 (min (budget.nanos / wait.nanos) 4294967295)

theorem fitting_le (budget wait : Span) : fitting budget wait ≤ 4294967295 := by
  unfold fitting
  omega

theorem fitting_anti (hwait : 0 < wait.nanos) (h : wait.nanos ≤ longer.nanos) :
    fitting budget longer ≤ fitting budget wait := by
  have hquotient : budget.nanos / longer.nanos ≤ budget.nanos / wait.nanos :=
    Nat.div_le_div_left h hwait
  unfold fitting
  omega

/-- A count is the clamped quotient exactly if the budget holds that many waits and not one more,
as far as the clamps let this be seen. -/
theorem eq_fitting_iff (hwait : 0 < wait.nanos) (hone : 1 ≤ count) (hmost : count ≤ 4294967295) :
    count = fitting budget wait ↔
      (1 < count → count * wait.nanos ≤ budget.nanos) ∧
        (count < 4294967295 → budget.nanos < (count + 1) * wait.nanos) := by
  have hholds : count * wait.nanos ≤ budget.nanos ↔ count ≤ budget.nanos / wait.nanos :=
    (Nat.le_div_iff_mul_le hwait).symm
  have hno_more : budget.nanos < (count + 1) * wait.nanos ↔
      budget.nanos / wait.nanos < count + 1 :=
    (Nat.div_lt_iff_lt_mul hwait).symm
  rw [hholds, hno_more]
  unfold fitting
  omega

/-! ### The wait as it is counted -/

/-- A wait in whole milliseconds, of which there is at least one. -/
def countedWait (policy : RetryPolicy) : Span :=
  Span.ofMillis (max policy.wait.millis 1)

theorem nanos_countedWait (policy : RetryPolicy) :
    policy.countedWait.nanos = max (policy.wait.nanos / 1000000) 1 * 1000000 := rfl

theorem countedWait_pos (policy : RetryPolicy) : 0 < policy.countedWait.nanos := by
  rw [nanos_countedWait]
  omega

theorem countedWait_le (h : 1000000 ≤ policy.wait.nanos) :
    policy.countedWait.nanos ≤ policy.wait.nanos := by
  rw [nanos_countedWait]
  omega

theorem le_countedWait (h : policy.wait.nanos ≤ 1000000) :
    policy.wait.nanos ≤ policy.countedWait.nanos := by
  rw [nanos_countedWait]
  omega

theorem countedWait_eq_iff (hwait : 0 < policy.wait.nanos) :
    policy.countedWait.nanos = policy.wait.nanos ↔ 1000000 ∣ policy.wait.nanos := by
  rw [nanos_countedWait]
  omega

/-- **The limit is an exact quotient**, by the wait as it is counted. -/
theorem maxAttempts_eq_fitting (hwait : 0 < policy.wait.nanos) :
    policy.maxAttempts = fitting policy.budget policy.countedWait := by
  have hquotient : policy.budget.nanos / policy.countedWait.nanos =
      policy.budget.millis / max policy.wait.millis 1 :=
    calc policy.budget.nanos / policy.countedWait.nanos
        = policy.budget.nanos / (1000000 * max policy.wait.millis 1) := by
          rw [countedWait, Span.ofMillis, Nat.mul_comm]
      _ = policy.budget.nanos / 1000000 / max policy.wait.millis 1 :=
          (Nat.div_div_eq_div_mul ..).symm
      _ = policy.budget.millis / max policy.wait.millis 1 := rfl
  rw [maxAttempts, if_neg (Nat.ne_of_gt hwait), fitting, hquotient, Nat.max_comm]
  rfl

theorem maxAttempts_le (policy : RetryPolicy) : policy.maxAttempts ≤ 4294967295 := by
  by_cases hwait : 0 < policy.wait.nanos
  · rw [maxAttempts_eq_fitting hwait]
    exact fitting_le ..
  · rw [maxAttempts, if_pos (by omega)]
    decide

/-- With a wait of whole milliseconds nothing is lost by counting in them. -/
theorem maxAttempts_ofMillis {millis : Nat} (hwait : policy.wait = Span.ofMillis millis)
    (hpositive : 0 < millis) :
    policy.maxAttempts = min (max 1 (policy.budget.nanos / policy.wait.nanos)) 4294967295 := by
  have hnanos : policy.wait.nanos = millis * 1000000 := by rw [hwait, Span.ofMillis]
  have hcounted : policy.countedWait.nanos = policy.wait.nanos :=
    (countedWait_eq_iff (by omega)).mpr (by omega)
  rw [maxAttempts_eq_fitting (by omega), fitting, hcounted]
  omega

/-! ### When the limit is what the budget holds -/

/-- The limit is the exact quotient by the wait, and the budget holds that many waits. -/
def IsExact (policy : RetryPolicy) : Prop :=
  policy.maxAttempts = fitting policy.budget policy.wait ∧
    (1 < policy.maxAttempts → policy.maxAttempts * policy.wait.nanos ≤ policy.budget.nanos)

theorem isExact_iff (hwait : 0 < policy.wait.nanos) :
    policy.IsExact ↔
      (1 < policy.maxAttempts → policy.maxAttempts * policy.wait.nanos ≤ policy.budget.nanos) ∧
        (policy.maxAttempts < 4294967295 →
          policy.budget.nanos < (policy.maxAttempts + 1) * policy.wait.nanos) := by
  rw [IsExact, eq_fitting_iff hwait (one_le_maxAttempts policy) (maxAttempts_le policy)]
  exact and_iff_left_of_imp And.left

/-- What the limit of a policy is, and how far it is from what its budget holds. -/
structure Limited (policy : RetryPolicy) : Prop where
  limit : policy.maxAttempts = fitting policy.budget policy.countedWait
  /-- A wait of a millisecond or more is cut down: the budget may hold fewer waits. -/
  coarse : 1000000 ≤ policy.wait.nanos →
    fitting policy.budget policy.wait ≤ policy.maxAttempts ∧
      (policy.IsExact ↔
        (1 < policy.maxAttempts → policy.maxAttempts * policy.wait.nanos ≤ policy.budget.nanos))
  /-- A wait below a millisecond counts for one: the budget may hold more waits. -/
  fine : policy.wait.nanos ≤ 1000000 →
    policy.maxAttempts ≤ fitting policy.budget policy.wait ∧
      (1 < policy.maxAttempts → policy.maxAttempts * policy.wait.nanos ≤ policy.budget.nanos) ∧
        (policy.IsExact ↔ (policy.maxAttempts < 4294967295 →
          policy.budget.nanos < (policy.maxAttempts + 1) * policy.wait.nanos))
  exact_iff : (∀ budget, IsExact { policy with budget := budget }) ↔ 1000000 ∣ policy.wait.nanos

theorem holds_countedWait (hwait : 0 < policy.wait.nanos) :
    (1 < policy.maxAttempts →
        policy.maxAttempts * policy.countedWait.nanos ≤ policy.budget.nanos) ∧
      (policy.maxAttempts < 4294967295 →
        policy.budget.nanos < (policy.maxAttempts + 1) * policy.countedWait.nanos) :=
  (eq_fitting_iff (countedWait_pos policy) (one_le_maxAttempts policy)
    (maxAttempts_le policy)).mp (maxAttempts_eq_fitting hwait)

theorem lt_of_maxAttempts_lt (hwait : 0 < policy.wait.nanos)
    (h : policy.countedWait.nanos ≤ policy.wait.nanos) (hlimit : policy.maxAttempts < 4294967295) :
    policy.budget.nanos < (policy.maxAttempts + 1) * policy.wait.nanos :=
  calc policy.budget.nanos
      < (policy.maxAttempts + 1) * policy.countedWait.nanos := (holds_countedWait hwait).2 hlimit
    _ ≤ (policy.maxAttempts + 1) * policy.wait.nanos := Nat.mul_le_mul_left _ h

theorem le_of_lt_maxAttempts (hwait : 0 < policy.wait.nanos)
    (h : policy.wait.nanos ≤ policy.countedWait.nanos) (hlimit : 1 < policy.maxAttempts) :
    policy.maxAttempts * policy.wait.nanos ≤ policy.budget.nanos :=
  calc policy.maxAttempts * policy.wait.nanos
      ≤ policy.maxAttempts * policy.countedWait.nanos := Nat.mul_le_mul_left _ h
    _ ≤ policy.budget.nanos := (holds_countedWait hwait).1 hlimit

theorem isExact_of_dvd (hwait : 0 < policy.wait.nanos) (hwhole : 1000000 ∣ policy.wait.nanos) :
    policy.IsExact := by
  have hcounted : policy.countedWait.nanos = policy.wait.nanos :=
    (countedWait_eq_iff hwait).mpr hwhole
  exact (isExact_iff hwait).mpr ⟨le_of_lt_maxAttempts hwait (Nat.le_of_eq hcounted.symm),
    lt_of_maxAttempts_lt hwait (Nat.le_of_eq hcounted)⟩

/-- Two waits, of the shorter of the wait and the wait as it is counted, tell them apart. -/
theorem dvd_of_forall_isExact (hwait : 0 < policy.wait.nanos)
    (h : ∀ budget, IsExact { policy with budget := budget }) : 1000000 ∣ policy.wait.nanos := by
  rw [← countedWait_eq_iff hwait]
  have hcounted := countedWait_pos policy
  have hlimit (budget : Span) : maxAttempts { policy with budget := budget } =
      fitting budget policy.countedWait := maxAttempts_eq_fitting hwait
  have htwice {span : Span} (hspan : 0 < span.nanos) :
      fitting ⟨2 * span.nanos⟩ span = 2 := by
    rw [fitting, Nat.mul_div_cancel _ hspan]
    rfl
  apply Nat.le_antisymm
  · -- Two waits fit into twice the wait, so two of those that are counted do.
    have hexact := (h ⟨2 * policy.wait.nanos⟩).1
    rw [hlimit, htwice hwait] at hexact
    have hholds := ((eq_fitting_iff hcounted (by decide) (by decide)).mp hexact.symm).1 (by decide)
    exact Nat.le_of_mul_le_mul_left hholds (by decide)
  · -- Two attempts are allowed in twice the wait that is counted, so two waits fit.
    have hexact := (h ⟨2 * policy.countedWait.nanos⟩).2
    rw [hlimit, htwice hcounted] at hexact
    exact Nat.le_of_mul_le_mul_left (hexact (by decide)) (by decide)

/-- **What the limit is.** It is what every budget holds exactly if the wait is a whole number of
milliseconds. -/
theorem limited_of_wait (policy : RetryPolicy) (hwait : 0 < policy.wait.nanos) :
    policy.Limited where
  limit := maxAttempts_eq_fitting hwait
  coarse h := by
    have hcounted := countedWait_le h
    refine ⟨?_, ?_⟩
    · rw [maxAttempts_eq_fitting hwait]
      exact fitting_anti (countedWait_pos policy) hcounted
    · rw [isExact_iff hwait, and_iff_left (lt_of_maxAttempts_lt hwait hcounted)]
  fine h := by
    have hcounted := le_countedWait h
    refine ⟨?_, le_of_lt_maxAttempts hwait hcounted, ?_⟩
    · rw [maxAttempts_eq_fitting hwait]
      exact fitting_anti hwait hcounted
    · rw [isExact_iff hwait, and_iff_right (le_of_lt_maxAttempts hwait hcounted)]
  exact_iff := ⟨dvd_of_forall_isExact hwait, fun hwhole _ => isExact_of_dvd hwait hwhole⟩

/-- A wait of a millisecond and a half, which fits twice into its budget. -/
def unevenPolicy : RetryPolicy := ⟨⟨1500000⟩, Span.ofMillis 3, none⟩

theorem limited_of_wait_uneven : 0 < unevenPolicy.wait.nanos ∧ unevenPolicy.Limited :=
  ⟨by decide, limited_of_wait unevenPolicy (by decide)⟩

/-- Three attempts are allowed in a budget that holds two waits. -/
theorem exists_not_isExact : ¬ ∀ policy : RetryPolicy, 0 < policy.wait.nanos → policy.IsExact := by
  intro h
  have hexact := h unevenPolicy (by decide)
  exact absurd hexact.1 (by decide)

end ControlPlane.RetryPolicy
