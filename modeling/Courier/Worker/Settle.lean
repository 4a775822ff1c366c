import Courier.Fault

/-!
# What a worker does with a failed delivery

A message that cannot be read or breaks a rule is discarded; one whose template or user does
not exist fails for good. When a service the worker depends on is down or its breaker is open,
the message is dead-lettered at once, without a retry and without a status report; any other
failure is retried through a wait queue.
-/

namespace Courier.Worker

/-- How to settle a delivery that failed. -/
inductive FailureAction where
  | discard
  | terminal
  | dependencyDown
  | retry
deriving DecidableEq, Repr

/-- The action for a fault, given the services the worker depends on. -/
def classify (f : Fault) (dependencies : List String) : FailureAction :=
  match f.kind with
  | .malformedMessage | .validationError => .discard
  | .notFound => .terminal
  | .serviceUnavailable | .circuitOpen =>
    match f.service? with
    | some s => if dependencies.contains s then .dependencyDown else .retry
    | none => .retry
  | .internal => .retry

end Courier.Worker
