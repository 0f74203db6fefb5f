import StudyGuide.Model

/-!
Calling a model until it answers. Each attempt has a time limit, and the waits between attempts
double. Time is counted in milliseconds from the first attempt; only waits and replies take any.
-/

set_option autoImplicit false
set_option relaxedAutoImplicit false

namespace StudyGuide

structure RetryPolicy where
  maxRetries : Nat
  backoffMs : Nat
  timeoutSecs : Nat
deriving DecidableEq, Repr

def Config.retryPolicy (config : Config) : RetryPolicy where
  maxRetries := config.maxRetries
  backoffMs := config.retryBackoffMs
  timeoutSecs := config.apiTimeoutSecs

/-- One call of the model. -/
structure Call where
  atMs : Nat
  parts : List MediaPart
  instruction : Text
deriving DecidableEq, Repr

namespace Retry

/-- No wait is longer than thirty years of 365 days, and no reply is waited for longer. -/
def longestWait : Nat := 30 * 365 * 86400 * 1000

/-- The wait before an attempt. The first attempt, of number zero, is made at once. -/
def waitBefore (policy : RetryPolicy) : Nat → Nat
  | 0 => 0
  | retry + 1 => min (policy.backoffMs * Nat.pow 2 retry) longestWait

/-- What an attempt comes to, and how long it takes. A reply that comes just at the limit is in
time. -/
def settle (policy : RetryPolicy) (reply : Reply) : Except GuideError Generation × Nat :=
  let delay := min reply.delayMs longestWait
  let limit := min (policy.timeoutSecs * 1000) longestWait
  if delay ≤ limit then (reply.outcome, delay)
  else (.error (.generationTimeout policy.timeoutSecs), limit)

/-- The error of a run of attempts, by the last of their errors. -/
def finalError (policy : RetryPolicy) : GuideError → GuideError
  | .generationTimeout seconds => .generationTimeout seconds
  | .generationFailed _ detail => .generationFailed (policy.maxRetries + 1) detail
  | other => .generationFailed (policy.maxRetries + 1) other.message

/-- What the attempts came to: the answer and the number of retries before it, every call, and
the time. -/
structure Outcome where
  result : Except GuideError (Generation × Nat)
  calls : List Call
  elapsedMs : Nat

/-- Attempts from number `attempt` at time `clock`, with so many retries left. -/
def attemptFrom (model : Model) (policy : RetryPolicy) (parts : List MediaPart)
    (instruction : Text) (attempt clock : Nat) (retriesLeft : Nat) : Outcome :=
  let atMs := clock + waitBefore policy attempt
  let call : Call := { atMs, parts, instruction }
  let (outcome, time) := settle policy (model attempt)
  match outcome with
  | .ok generation =>
    { result := .ok (generation, attempt), calls := [call], elapsedMs := atMs + time }
  | .error error =>
    match retriesLeft with
    | 0 => { result := .error (finalError policy error), calls := [call], elapsedMs := atMs + time }
    | left + 1 =>
      let rest := attemptFrom model policy parts instruction (attempt + 1) (atMs + time) left
      { rest with calls := call :: rest.calls }

def run (model : Model) (policy : RetryPolicy) (parts : List MediaPart) (instruction : Text) :
    Outcome :=
  attemptFrom model policy parts instruction 0 0 policy.maxRetries

end Retry

end StudyGuide
