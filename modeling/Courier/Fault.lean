import Courier.Json.Value

/-!
# Faults

Every way a step of the pipeline can fail, as one type of causes. A fault has a kind (what a
client should make of it), may name the service it came from, and says whether it counts against
that service's circuit breaker and whether its text may be shown to a client as it is.
-/

namespace Courier

open Json

/-- Why an operation of the pipeline failed. -/
inductive Fault where
  /-- something looked up does not exist -/
  | notFound (what : String)
  /-- the service catalog could not say where a service is -/
  | discoveryUnavailable (service message : String)
  /-- a request to a service failed before it answered -/
  | serviceUnavailable (service message : String)
  /-- a request to a service took longer than its limit -/
  | timeout (service : String) (ms : Nat)
  /-- the circuit breaker of a service refused the call -/
  | circuitOpen (service : String)
  /-- a service answered with an error status; its body is kept as it came -/
  | downstream (service : String) (status : Nat) (body : Value)
  /-- a message or payload could not be read -/
  | malformed (message : String)
  /-- a request broke a rule of the pipeline -/
  | validation (message : String)
  /-- the message broker failed -/
  | broker (message : String)
  /-- the status store failed -/
  | store (message : String)
  /-- a provider did not deliver -/
  | delivery (message : String)
  /-- anything else -/
  | internal (message : String)

instance : Inhabited Fault := ⟨.internal ""⟩

/-- What a client should make of a fault. -/
inductive FaultKind where
  | notFound
  | serviceUnavailable
  | circuitOpen
  | malformedMessage
  | validationError
  | internal
deriving DecidableEq

/-- The name of a kind, as clients see it. -/
def FaultKind.name : FaultKind → String
  | .notFound => "not_found"
  | .serviceUnavailable => "service_unavailable"
  | .circuitOpen => "circuit_open"
  | .malformedMessage => "malformed_message"
  | .validationError => "validation_error"
  | .internal => "internal"

namespace Fault

/-- The text of a fault. -/
def message : Fault → String
  | .notFound what => what ++ " not found"
  | .discoveryUnavailable s m => "service discovery unavailable while resolving '" ++ s ++ "': " ++ m
  | .serviceUnavailable s m => "request to '" ++ s ++ "' failed: " ++ m
  | .timeout s ms => "request to '" ++ s ++ "' timed out after " ++ toString ms ++ "ms"
  | .circuitOpen s => "circuit breaker open for " ++ s
  | .downstream s status _ => "'" ++ s ++ "' responded with HTTP " ++ toString status
  | .malformed m => "malformed message: " ++ m
  | .validation m => m
  | .broker m => "broker error: " ++ m
  | .store m => "status store error: " ++ m
  | .delivery m => "delivery failed: " ++ m
  | .internal m => "internal error: " ++ m

/-- The kind of a fault. A service's error status decides the kind of a `downstream` fault:
404 is not found, 400 and 422 are validation errors, 500 and above an unavailable service. -/
def kind : Fault → FaultKind
  | .notFound _ => .notFound
  | .discoveryUnavailable .. | .serviceUnavailable .. | .timeout .. => .serviceUnavailable
  | .circuitOpen _ => .circuitOpen
  | .downstream _ status _ =>
    if status == 404 then .notFound
    else if status == 400 || status == 422 then .validationError
    else if status ≥ 500 then .serviceUnavailable
    else .internal
  | .malformed _ => .malformedMessage
  | .validation _ => .validationError
  | .broker _ | .store _ | .delivery _ | .internal _ => .internal

/-- The service a fault came from, if it came from one. -/
def service? : Fault → Option String
  | .discoveryUnavailable s _ | .serviceUnavailable s _ | .timeout s _ | .circuitOpen s
  | .downstream s _ _ => some s
  | _ => none

/-- Whether the fault counts against a circuit breaker: failures to reach a service and its
server errors do, a client's own mistakes do not. -/
def tripsBreaker : Fault → Bool
  | .discoveryUnavailable .. | .serviceUnavailable .. | .timeout .. | .delivery _ | .internal _ => true
  | .downstream _ status _ => status ≥ 500
  | _ => false

/-- Whether the text of the fault may be shown to a client as it is. -/
def isOperational (f : Fault) : Bool :=
  match f.kind with
  | .internal => match f with
    | .downstream .. => true
    | _ => false
  | _ => true

end Fault

/-- A computation of the pipeline that may fail with a fault. -/
abbrev Outcome (α : Type) := Except Fault α

end Courier
