import Courier.Breaker.Circuit
import Courier.Json.Value
import Courier.Time.Instant

/-!
# Health reports

`/health` reports every dependency: the probes (the status store, the message broker), each
healthy with its response time or unhealthy with the fault it met, and every circuit breaker,
healthy when closed and degraded otherwise. A breaker named like a probe replaces it. The whole
process is unhealthy if any dependency is, degraded if any is, and healthy otherwise; only an
unhealthy process answers 503.
-/

namespace Courier.Service

open Courier.Json Courier.Breaker

/-- The health of a dependency or of the whole process. -/
inductive HealthStatus where
  | healthy
  | degraded
  | unhealthy
  deriving DecidableEq

/-- How a health status is written. -/
def HealthStatus.name : HealthStatus → String
  | .healthy => "healthy"
  | .degraded => "degraded"
  | .unhealthy => "unhealthy"

/-- The health of one dependency. -/
structure ServiceHealth where
  status : HealthStatus
  responseTimeMs : Option Nat := none
  circuit : Option CircuitState := none
  error : Option String := none

/-- A dependency that answered in `ms` milliseconds. -/
def ServiceHealth.healthy (ms : Nat) : ServiceHealth := { status := .healthy, responseTimeMs := some ms }

/-- A dependency that failed. -/
def ServiceHealth.unhealthy (error : String) : ServiceHealth := { status := .unhealthy, error := some error }

/-- How long a probe may take, in milliseconds. -/
def probeTimeoutMs : Nat := 3000

/-- The health a dependency's probe reports: healthy with its response time when it answered (in
`ms` milliseconds), unhealthy with the fault it met otherwise; a probe that does not answer in
time meets a timeout. -/
def ServiceHealth.ofProbe (name : String) : Completion Nat → ServiceHealth
  | .done ms => .healthy ms
  | .failed f => .unhealthy f.message
  | .stalled => .unhealthy (Fault.timeout name probeTimeoutMs).message

/-- The health a breaker's state stands for. -/
def ServiceHealth.fromCircuit (s : CircuitState) : ServiceHealth :=
  match s with
  | .closed => { status := .healthy, circuit := some s }
  | .open => { status := .degraded, circuit := some s }
  | .halfOpen =>
    { status := .degraded, circuit := some s, error := some "Circuit breaker in recovery mode" }

/-- A dependency's health as JSON; absent parts are left out. -/
def ServiceHealth.toValue (h : ServiceHealth) : Value :=
  .object ([("status", .str h.status.name)] ++
    (h.responseTimeMs.map fun ms => ("response_time_ms", Value.nat ms)).toList ++
    (h.circuit.map fun s => ("circuit_breaker", Value.str s.name)).toList ++
    (h.error.map fun e => ("error", Value.str e)).toList)

/-- The health of the whole process: the worst of its dependencies. -/
def overallStatus (checks : List ServiceHealth) : HealthStatus :=
  if checks.any (·.status == .unhealthy) then .unhealthy
  else if checks.any (·.status == .degraded) then .degraded
  else .healthy

/-- A health report: the overall status, when it was made, and each dependency by name. -/
structure HealthReport where
  status : HealthStatus
  timestamp : Time.Instant
  checks : List (String × ServiceHealth)

/-- Adds a check, replacing one of the same name; the list stays sorted by name. -/
def putCheck (name : String) (h : ServiceHealth) : List (String × ServiceHealth) →
    List (String × ServiceHealth)
  | [] => [(name, h)]
  | (n, x) :: rest =>
    if name < n then (name, h) :: (n, x) :: rest
    else if name == n then (name, h) :: rest
    else (n, x) :: putCheck name h rest

/-- The report for the probes' results and the breakers' states, made at `now`. -/
def healthReport (probes : List (String × ServiceHealth)) (breakers : List (String × CircuitState))
    (now : Time.Instant) : HealthReport :=
  let checks := probes.foldl (fun acc (n, h) => putCheck n h acc) []
  let checks := breakers.foldl (fun acc (n, s) => putCheck n (.fromCircuit s) acc) checks
  { status := overallStatus (checks.map (·.2)), timestamp := now, checks := checks }

/-- Probes every dependency and reads every breaker of a registry, at `now`: each probe is given
by its name and how its check ended. -/
def checkAll (probes : List (String × Completion Nat)) (r : Registry) (now : Time.Instant) :
    HealthReport :=
  healthReport (probes.map fun (n, o) => (n, ServiceHealth.ofProbe n o)) r.states now

/-- A report as JSON. -/
def HealthReport.toValue (r : HealthReport) : Value :=
  .object [("status", .str r.status.name), ("timestamp", .str r.timestamp.render),
    ("checks", .obj (r.checks.map fun (n, h) => (n, h.toValue)))]

/-- The HTTP status of a report: 503 when unhealthy, else 200. -/
def HealthReport.httpStatus (r : HealthReport) : Nat :=
  if r.status == .unhealthy then 503 else 200


end Courier.Service
