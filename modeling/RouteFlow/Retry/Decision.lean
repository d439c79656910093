import RouteFlow.Retry.Backoff
import RouteFlow.Retry.Requested

/-!
# Whether to try again

`decide?` looks at what an attempt brought and says whether another one follows, and after which
wait. A wait that the server asks for goes before a growing one; neither exceeds the longest wait.

* `lt_maxAttempts_of_retry`: no attempt follows the last one.
-/

namespace RouteFlow.Retry

/-- What an attempt brought that may be worth another one. -/
inductive Outcome where
  | status (status : Nat) (headers : Entries String)
  | networkFailure
  deriving DecidableEq

/-- Why a decision was taken. -/
inductive Reason where
  | attemptsExhausted
  | networkFailure
  | status (status : Nat)
  | requested
  deriving DecidableEq

/-- Whether another attempt follows. -/
inductive Decision where
  | retry (delay : Nanos) (reason : Reason)
  | stop (reason : Reason)
  deriving DecidableEq

/-- The reason that an outcome is. -/
def Outcome.reason : Outcome → Reason
  | .status s _ => .status s
  | .networkFailure => .networkFailure

/-- Whether an outcome is worth another attempt. -/
def Outcome.isRetryable (p : Policy) : Outcome → Bool
  | .status s _ => p.statuses.contains s
  | .networkFailure => true

/-- What the server asked for. -/
def Outcome.requested (p : Policy) (now : Nanos) : Outcome → Wish
  | .status _ headers => requestedWait headers p.vendorHeaders now
  | .networkFailure => .nothing

/-- Decides after attempt number `attempt`, counted from one, with the random number `word`. None if
the server asks for a moment after the end of the clock, or if the ceiling of the wait leaves no
room for a draw. -/
def decide? (p : Policy) (attempt : Nat) (outcome : Outcome) (now : Nanos) (word : Nat) :
    Option Decision :=
  if !outcome.isRetryable p then some (.stop outcome.reason)
  else if p.maxAttempts ≤ attempt then some (.stop .attemptsExhausted)
  else
    match outcome.requested p now with
    | .wait delay => some (.retry (min delay p.maxDelay) .requested)
    | .beyondClock => none
    | .nothing =>
      let most := ceiling p.baseDelay.millis p.factor p.maxDelay.millis attempt
      (draw? most word).map fun ms => .retry (Nanos.ofMillis ms) outcome.reason

/-- Another attempt follows only while there are attempts left. -/
theorem lt_maxAttempts_of_retry {p : Policy} {attempt : Nat} {outcome : Outcome} {now : Nanos}
    {word : Nat} {delay : Nanos} {reason : Reason}
    (h : decide? p attempt outcome now word = some (.retry delay reason)) :
    attempt < p.maxAttempts := by
  unfold decide? at h
  split at h
  · exact absurd h (by simp)
  · split at h
    · exact absurd h (by simp)
    · next hleft => exact Nat.lt_of_not_le hleft

end RouteFlow.Retry
