import Courier.Completion

/-!
# Ordered shutdown

Cleanup steps run one after another, each with the same time limit. Every step gets a report,
in order: completed, failed with the fault's text, or timed out; a step that fails or times out
does not stop the ones after it.

Over time, a step starts when the one before it has stopped: when it returned, or at the time
limit, where a step that has not returned is dropped and does nothing more.
-/

namespace Courier.Service

/-- How a shutdown step ended. -/
inductive StepOutcome where
  | completed
  | failed (message : String)
  | timedOut

/-- The report of one step. -/
structure StepReport where
  name : String
  outcome : StepOutcome

/-- The report of a step that ended with `c`; a step that never ends is stopped at its limit. -/
def reportStep (name : String) (c : Completion Unit) : StepReport :=
  match c with
  | .done _ => ⟨name, .completed⟩
  | .failed f => ⟨name, .failed f.message⟩
  | .stalled => ⟨name, .timedOut⟩

/-- Runs the steps in order and reports each. -/
def runShutdown (steps : List (String × Completion Unit)) : List StepReport :=
  steps.map fun (name, c) => reportStep name c

/-! ### Steps over time -/

/-- A cleanup step as it behaves once started, its times counted from its start: what it does
and when, and when it returns and with what, if it ever returns. -/
structure Step (ε : Type) where
  name : String
  /-- the step's effects, each with its time after the start -/
  effects : List (Nat × ε) := []
  /-- when the step returns and what it returns, if it ever does -/
  returns : Option (Nat × Outcome Unit)

/-- A step as it ran: when it started and stopped, the effects it made, at their times, and its
report. -/
structure StepRun (ε : Type) where
  start : Nat
  stop : Nat
  effects : List (Nat × ε)
  report : StepReport

namespace Step

variable {ε : Type} (limit : Nat) (s : Step ε)

/-- How long the step runs under the time limit: until it returns, or until the limit, where it
is dropped. A step that returns at the limit itself has returned, as the step is polled before
its timer. -/
def runTime : Nat :=
  match s.returns with
  | some (d, _) => min d limit
  | none => limit

/-- How the step ends under the time limit; a step that has not returned by then counts as one
that never ends. -/
def completion : Completion Unit :=
  match s.returns with
  | some (d, .ok ()) => if d ≤ limit then .done () else .stalled
  | some (d, .error f) => if d ≤ limit then .failed f else .stalled
  | none => .stalled

/-- The step run from `start`: it stops after its run time, and of its effects only those made
by then happen. -/
def runAt (start : Nat) : StepRun ε :=
  { start,
    stop := start + s.runTime limit,
    effects := (s.effects.filter fun e => e.1 ≤ s.runTime limit).map fun e => (start + e.1, e.2),
    report := reportStep s.name (s.completion limit) }

end Step

/-- Runs the steps one after another from `now` under the time limit, each started when the one
before it stopped. -/
def runSteps {ε : Type} (limit : Nat) : Nat → List (Step ε) → List (StepRun ε)
  | _, [] => []
  | now, s :: rest => s.runAt limit now :: runSteps limit (now + s.runTime limit) rest

end Courier.Service
