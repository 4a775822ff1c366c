import Courier.Completion

/-!
# Circuit breakers

A breaker guards the calls to one downstream service. It is *closed* while calls go through,
*open* while it refuses them, and *half-open* while one probe call tests whether the service is
back.

* A closed breaker admits every call. It keeps the outcomes of the calls of the last
  `rollingWindowMs`; when a failure leaves at least `volumeThreshold` outcomes of which at least
  `errorThresholdPercentage` percent failed, it opens.
* An open breaker refuses calls until `resetTimeoutMs` have passed since it opened; the next call
  is then admitted as the probe and the breaker turns half-open.
* A half-open breaker refuses calls while its probe is out. The probe's outcome decides: a
  failure opens the breaker again, a success closes it and clears the failure count. A probe
  that is abandoned frees the slot for the next caller.
* A call admitted while the breaker was closed counts only if the breaker is still closed when
  it ends.

Only faults that `Fault.tripsBreaker` are failures. Times are in nanoseconds since an arbitrary
origin.
-/

namespace Courier.Breaker

/-- The state of a breaker. -/
inductive CircuitState where
  | closed
  | open
  | halfOpen
  deriving DecidableEq, Inhabited

/-- How a state is written. -/
def CircuitState.name : CircuitState → String
  | .closed => "closed"
  | .open => "open"
  | .halfOpen => "half_open"

/-- The settings of a breaker. -/
structure BreakerConfig where
  timeoutMs : Nat
  resetTimeoutMs : Nat
  errorThresholdPercentage : Nat
  volumeThreshold : Nat
  rollingWindowMs : Nat
  deriving Inhabited

/-- Development settings: tolerant of slow local services, quick to trip. -/
def BreakerConfig.lenient : BreakerConfig :=
  ⟨30000, 1000, 50, 1, 10000⟩

/-- Production settings. -/
def BreakerConfig.strict : BreakerConfig :=
  ⟨3000, 30000, 20, 10, 10000⟩

/-- Nanoseconds in a millisecond. -/
def nanosPerMs : Nat := 1000000

/-- A change of state, for the log of events. -/
structure Transition where
  service : String
  source : CircuitState
  target : CircuitState

/-- The outcome of one admitted call: when it ended and whether it failed. -/
structure CallRecord where
  endedAt : Nat
  failed : Bool

/-- The circuit of one service: the breaker's state and the outcomes it remembers. The failure
count is a 32-bit word, as the source holds it. -/
structure Circuit where
  state : CircuitState := .closed
  window : List CallRecord := []
  failureCount : UInt32 := 0
  lastFailure : Option Nat := none
  openedAt : Option Nat := none
  probeOut : Bool := false
  deriving Inhabited

/-- How a call was let through: as an ordinary call or as the probe. -/
inductive Admission where
  | normal
  | probe
  deriving DecidableEq

/-- Decides whether a call may go out at `now`. Refusals are `CircuitOpen` faults; turning
half-open is reported as a change of state. -/
def Circuit.admit (c : BreakerConfig) (service : String) (now : Nat) (b : Circuit) :
    Except Fault Admission × Circuit × List (CircuitState × CircuitState) :=
  match b.state with
  | .closed => (.ok .normal, b, [])
  | .open =>
    let cooled : Bool := match b.openedAt with
      | some t => decide (now - t ≥ c.resetTimeoutMs * nanosPerMs)
      | none => true
    if cooled then (.ok .probe, { b with state := .halfOpen, probeOut := true }, [(.open, .halfOpen)])
    else (.error (.circuitOpen service), b, [])
  | .halfOpen =>
    if b.probeOut then (.error (.circuitOpen service), b, [])
    else (.ok .probe, { b with probeOut := true }, [])

/-- Counts a failure at `now`. The count wraps around past `2 ^ 32 - 1`, as a release build
does; a debug build would stop with an overflow there. -/
def Circuit.noteFailure (now : Nat) (b : Circuit) : Circuit :=
  { b with failureCount := b.failureCount + 1, lastFailure := some now }

/-- Opens the breaker at `now`. -/
def Circuit.trip (now : Nat) (b : Circuit) : Circuit :=
  { b with state := .open, openedAt := some now, window := [] }

/-- Closes the breaker and forgets its failures. -/
def Circuit.reset (b : Circuit) : Circuit :=
  { b with state := .closed, openedAt := none, failureCount := 0, window := [] }

/-- Drops the outcomes older than the rolling window. -/
def pruneWindow (c : BreakerConfig) (now : Nat) : List CallRecord → List CallRecord
  | [] => []
  | r :: rest =>
    if now - r.endedAt > c.rollingWindowMs * nanosPerMs then pruneWindow c now rest else r :: rest

/-- Whether the outcomes in the window call for opening. -/
def thresholdExceeded (c : BreakerConfig) (window : List CallRecord) : Bool :=
  let volume := window.length
  if volume == 0 || volume < c.volumeThreshold then false
  else (window.filter (·.failed)).length * 100 ≥ c.errorThresholdPercentage * volume

/-- Records the outcome of an admitted call that ended at `now`. -/
def Circuit.record (c : BreakerConfig) (now : Nat) (adm : Admission) (failed : Bool)
    (b : Circuit) : Circuit × List (CircuitState × CircuitState) :=
  match adm, b.state with
  | .probe, .halfOpen =>
    let b := { b with probeOut := false }
    if failed then ((b.noteFailure now).trip now, [(.halfOpen, .open)])
    else (b.reset, [(.halfOpen, .closed)])
  | .normal, .closed =>
    let b := if failed then b.noteFailure now else b
    let window := pruneWindow c now (b.window ++ [⟨now, failed⟩])
    let b := { b with window := window }
    if failed && thresholdExceeded c window then (b.trip now, [(.closed, .open)]) else (b, [])
  | .normal, _ => (b, [])
  | .probe, _ => ({ b with probeOut := false }, [])

/-- Frees the probe slot of a probe that was abandoned before it ended. -/
def Circuit.abandon (adm : Admission) (b : Circuit) : Circuit :=
  if adm == .probe then { b with probeOut := false } else b

/-! ### Registries -/

/-- One breaker per service name, made on first use, all with the same settings. -/
structure Registry where
  config : BreakerConfig
  breakers : List (String × Circuit) := []

/-- The breaker of a service, made closed if it is new. -/
def Registry.touch (r : Registry) (service : String) : Registry × Circuit :=
  match r.breakers.lookup service with
  | some b => (r, b)
  | none => ({ r with breakers := r.breakers ++ [(service, {})] }, {})

/-- Replaces the breaker of a service. -/
def Registry.put (r : Registry) (service : String) (b : Circuit) : Registry :=
  { r with breakers := r.breakers.map fun (s, x) => if s == service then (s, b) else (s, x) }

/-- The breakers sorted by service name. -/
def Registry.sorted (r : Registry) : List (String × Circuit) :=
  r.breakers.mergeSort fun a b => a.1 ≤ b.1

/-- The state of every breaker, sorted by service name. -/
def Registry.states (r : Registry) : List (String × CircuitState) :=
  r.sorted.map fun (s, b) => (s, b.state)

/-- Names the changes of state of a service's breaker. -/
def named (service : String) (ts : List (CircuitState × CircuitState)) : List Transition :=
  ts.map fun (a, b) => ⟨service, a, b⟩

/-- Asks the breaker of a service to let a call out at `now`. -/
def Registry.admit (r : Registry) (service : String) (now : Nat) :
    Except Fault Admission × Registry × List Transition :=
  let (r, b) := r.touch service
  let (adm, b, ts) := b.admit r.config service now
  (adm, r.put service b, named service ts)

/-- Whether a result counts as a failure of the service. -/
def isFailure {α : Type} : Except Fault α → Bool
  | .error f => f.tripsBreaker
  | .ok _ => false

/-- Records the result of an admitted call that ended at `now`. -/
def Registry.settle {α : Type} (r : Registry) (service : String) (now : Nat) (adm : Admission)
    (result : Except Fault α) : Registry × List Transition :=
  let (r, b) := r.touch service
  let (b, ts) := b.record r.config now adm (isFailure result)
  (r.put service b, named service ts)

/-- Abandons an admitted call before it ends. -/
def Registry.abandon (r : Registry) (service : String) (adm : Admission) : Registry :=
  let (r, b) := r.touch service
  r.put service (b.abandon adm)

/-- The result of a call whose operation ends as `c`: a call that never ends is cut off by the
time limit with a `Timeout` fault. -/
def timeLimited {α : Type} (c : BreakerConfig) (service : String) : Completion α → Except Fault α
  | .done a => .ok a
  | .failed f => .error f
  | .stalled => .error (.timeout service c.timeoutMs)

/-- When a call started at `start` ends: at once, or at the time limit if it never ends. -/
def endTime {α : Type} (c : BreakerConfig) (start : Nat) : Completion α → Nat
  | .stalled => start + c.timeoutMs * nanosPerMs
  | _ => start

/-- Makes one call through the breaker, starting at `now`. The operation is an action of the
monad `m` and runs only if the breaker lets the call through; its completion, cut off by the time
limit, is recorded when the call ends. Gives the result, the circuit after, the changes of state
and the time the call ended. -/
def Circuit.callWith {m : Type → Type} [Monad m] {α : Type} (c : BreakerConfig) (service : String)
    (now : Nat) (op : m (Completion α)) (b : Circuit) :
    m (Except Fault α × Circuit × List (CircuitState × CircuitState) × Nat) :=
  match b.admit c service now with
  | (.error f, b, ts) => pure (.error f, b, ts, now)
  | (.ok adm, b, ts) => do
    let o ← op
    let result := timeLimited c service o
    let stop := endTime c now o
    let (b, ts') := b.record c stop adm (isFailure result)
    pure (result, b, ts ++ ts', stop)

/-- Makes one call through the breaker of a service, starting at `now`: refused, or admitted,
run under the time limit, and recorded. Gives the result, the registry, the changes of state
and the time the call ended. -/
def Registry.call {α : Type} (r : Registry) (service : String) (now : Nat) (op : Completion α) :
    Except Fault α × Registry × List Transition × Nat :=
  let (r, b) := r.touch service
  let (result, b, ts, stop) := Id.run (b.callWith r.config service now (pure op))
  (result, r.put service b, named service ts, stop)

end Courier.Breaker
