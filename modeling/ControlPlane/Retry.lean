import ControlPlane.Program

/-!
# Linear retries

A request that fails for a reason that may pass is sent again after a constant wait, until it
succeeds, fails for good, or has used up its budget of time. `RetryPolicy.execute` works over any
transport; it hands out only copies of the request it was given, and it returns what the last
attempt came to.
-/

namespace ControlPlane

inductive RetryDecision where
  | retry
  | stopSuccess
  | stopFatal
  deriving DecidableEq, Repr

/-- A constant wait between attempts, the time all of them may take, and a say against retries. -/
structure RetryPolicy where
  wait : Span
  budget : Span
  veto : Option (Method → Error → Bool) := none

def defaultRetryWait : Span := Span.ofSeconds 10

def defaultRetryBudget : Span := Span.ofSeconds 300

namespace RetryPolicy

def standard : RetryPolicy := ⟨defaultRetryWait, defaultRetryBudget, none⟩

/-- One attempt and no more. -/
def never : RetryPolicy := ⟨Span.zero, Span.zero, none⟩

/-- The wait after an attempt, the same after each. -/
def backoff (policy : RetryPolicy) (_attempt : Nat) : Span :=
  policy.wait

def attemptLimit : Nat := (1 <<< 32) - 1

/-- How many attempts fit the budget, counted in whole milliseconds: at least one. -/
def maxAttempts (policy : RetryPolicy) : Nat :=
  if policy.wait.nanos = 0 then 1
  else max (min (policy.budget.millis / max policy.wait.millis 1) attemptLimit) 1

theorem one_le_maxAttempts (policy : RetryPolicy) : 1 ≤ policy.maxAttempts := by
  unfold maxAttempts
  split <;> omega

/-- Whether the policy's owner speaks against another attempt. -/
def isVetoed (policy : RetryPolicy) (method : Method) (error : Error) : Bool :=
  match policy.veto with
  | none => false
  | some veto => veto method error

/-- What to do after an attempt that came to this. -/
def classify (policy : RetryPolicy) (method : Method) : Except Error Response → RetryDecision
  | .ok _ => .stopSuccess
  | .error error =>
    if !error.isRetryable then .stopFatal
    else if policy.isVetoed method error then .stopFatal
    else .retry

def debugText (policy : RetryPolicy) : String :=
  Text.debugRecord "RetryPolicy" [
    ("wait", policy.wait.text),
    ("budget", policy.budget.text),
    ("has_veto", if policy.veto.isSome then "true" else "false")] false

end RetryPolicy

/-- What an attempt came to: only an answer that grants the request is a success. -/
def judge : Except Error Response → Except Error Response
  | .ok response =>
    if response.isSuccess then .ok response
    else .error (Error.ofResponse response.status response.body)
  | .error error => .error error

/-- Sends one attempt of a request. -/
abbrev Inner := Request → Program (Except Error Response)

namespace RetryPolicy

def label (request : Request) : String :=
  request.method.text ++ " " ++ request.url.text

/-- The line that announces that no attempt follows. -/
def giveUpLine (request : Request) (attempt : Nat) : String :=
  label request ++ " still failing after " ++ toString attempt ++ " attempts, giving up"

/-- Stops with what the last attempt came to. -/
def giveUp (request : Request) (attempt : Nat) (outcome : Except Error Response) :
    Program (Except Error Response) := do
  Program.warn (giveUpLine request attempt)
  return outcome

/-- The line that announces another attempt. -/
def retryLine (policy : RetryPolicy) (request : Request) (attempt : Nat) (error : Error) : String :=
  label request ++ " failed: " ++ error.message ++ ", attempt " ++ toString attempt ++ "/" ++
    toString policy.maxAttempts ++ ", retrying in " ++ (policy.backoff attempt).text

/-- Waits and goes on, if the budget holds one more wait; `again` is what follows the wait. -/
def waitAndRetry (policy : RetryPolicy) (request : Request) (started : Span) (attempt : Nat)
    (error : Error) (again : Unit → Program (Except Error Response)) :
    Program (Except Error Response) := do
  let now ← Program.steadyClock
  let wait := policy.backoff attempt
  if policy.budget.nanos < now.nanos - started.nanos + wait.nanos then
    giveUp request attempt (.error error)
  else
    Program.info (policy.retryLine request attempt error)
    Program.sleep wait
    again ()

/-- Goes on after the attempt of this number; `again?` is the next one, if one more is allowed. -/
def settle (policy : RetryPolicy) (request : Request) (started : Span) (attempt : Nat)
    (again? : Option (Unit → Program (Except Error Response))) (outcome : Except Error Response) :
    Program (Except Error Response) :=
  match policy.classify request.method outcome, outcome with
  | .retry, .error error =>
    match again? with
    | none => giveUp request attempt (.error error)
    | some again => policy.waitAndRetry request started attempt error again
  | _, _ => return outcome

/-- Makes the attempt of this number, with `left` more allowed after it. -/
def attemptFrom (policy : RetryPolicy) (inner : Inner) (request : Request) (started : Span)
    (attempt : Nat) : Nat → Program (Except Error Response)
  | 0 => do
    let raw ← inner request
    policy.settle request started attempt none (judge raw)
  | left + 1 => do
    let raw ← inner request
    policy.settle request started attempt
      (some fun _ => attemptFrom policy inner request started (attempt + 1) left) (judge raw)

/-- Sends a request, again and again if need be. -/
def execute (policy : RetryPolicy) (inner : Inner) (request : Request) :
    Program (Except Error Response) := do
  let started ← Program.steadyClock
  match request.copy? with
  | none => return .error (.other "request body cannot be replayed")
  | some copy => attemptFrom policy inner copy started 1 (policy.maxAttempts - 1)

end RetryPolicy

end ControlPlane
