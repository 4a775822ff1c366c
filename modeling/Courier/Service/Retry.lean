import Courier.Completion

/-!
# Retrying with backoff

An operation is called until a call succeeds or `maxAttempts` calls were made (at least one
call is always made); the last call's result is returned. Between two calls it waits, first
`initialDelayMs`, then each time `backoffMultiplier` times longer, at most `maxDelayMs` (a
random tenth more or less is added to each wait when it runs, which no result can show).
-/

namespace Courier.Service

/-- How often and how patiently to retry. -/
structure RetryConfig where
  maxAttempts : Nat := 3
  initialDelayMs : Nat := 100
  maxDelayMs : Nat := 2000
  backoffMultiplier : Nat := 2

/-- The result of retrying: the last call's result, the number of calls, and the waits between
them before the random part. -/
structure RetryRun (α : Type) where
  result : Outcome α
  attempts : Nat
  waits : List Nat

/-- The largest unsigned 64-bit value. -/
def retryDelayCap : Nat := 18446744073709551615

/-- Retries an operation whose `i`-th call (from 0) returns `call i`. -/
def retryWithBackoff {α : Type} (c : RetryConfig) (call : Nat → Outcome α) : RetryRun α :=
  let rec go (attempt delay : Nat) (waits : List Nat) : Nat → RetryRun α
    | 0 => ⟨call attempt, attempt + 1, waits.reverse⟩
    | fuel + 1 =>
      match call attempt with
      | .ok a => ⟨.ok a, attempt + 1, waits.reverse⟩
      | .error e =>
        if attempt + 1 ≥ c.maxAttempts then ⟨.error e, attempt + 1, waits.reverse⟩
        else go (attempt + 1) (min (min (delay * c.backoffMultiplier) retryDelayCap) c.maxDelayMs)
          (delay :: waits) fuel
  go 0 c.initialDelayMs [] c.maxAttempts

end Courier.Service
