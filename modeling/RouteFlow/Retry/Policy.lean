import RouteFlow.Http.Exchange

/-!
# Retry policies

When a call that brought no good answer is sent again, and how long to wait before that.
-/

namespace RouteFlow.Retry

/-- How a header tells the time until a call may be sent again. -/
inductive WaitForm where
  | seconds
  | unixSeconds
  | date
  deriving DecidableEq, Repr

/-- A header that may tell the time to wait. -/
structure WaitHeader where
  name : String
  form : WaitForm
  deriving DecidableEq

/-- A retry policy. -/
structure Policy where
  /-- How often a call is sent at most, the first time included. -/
  maxAttempts : Nat
  /-- The statuses of answers that are asked for again. -/
  statuses : List Nat
  /-- The wait before the second attempt, before jitter. -/
  baseDelay : Nanos
  /-- By how much the wait grows from one attempt to the next. -/
  factor : Float
  /-- The longest wait. -/
  maxDelay : Nanos
  /-- Headers that are looked at after `Retry-After`. -/
  vendorHeaders : List WaitHeader
  /-- Whether calls that change something may be sent again. -/
  retryNonIdempotent : Bool

namespace Policy

/-- Three attempts that wait 200 ms and twice as long, ten seconds at most. -/
def standard : Policy where
  maxAttempts := 3
  statuses := [408, 429, 502, 503, 504]
  baseDelay := Nanos.ofMillis 200
  factor := 2
  maxDelay := Nanos.ofSeconds 10
  vendorHeaders := []
  retryNonIdempotent := false

/-- A single attempt. -/
def disabled : Policy := { standard with maxAttempts := 1 }

/-- The policy with another number of attempts, at least one. -/
def withMaxAttempts (p : Policy) (n : Nat) : Policy := { p with maxAttempts := max n 1 }

/-- Whether a call with a method may be sent again. -/
def mayRepeat (p : Policy) (m : Http.Method) : Bool :=
  !(m == .post || m == .patch) || p.retryNonIdempotent

end Policy
end RouteFlow.Retry
