import Courier.Worker.Handler
import Courier.Worker.Settle
import Courier.Broker.Topology
import Courier.Json.Read
import Courier.Time.Instant

/-!
# Delivery consumers

A consumer takes the deliveries of its channel's queue one at a time and settles each exactly
once.

* A payload that is not a job of the consumer's channel with a request id, or that lacks the
  channel's required fields, is rejected at once and reported to no one.
* A delivered job is acknowledged and then reported delivered.
* A failed job is settled by the action its fault calls for (`classify`): discarded or
  dead-lettered after a failure report, rejected without a report when a dependency is down, or
  published to the wait queue of the next attempt and acknowledged. When retries have run out the
  job is dead-lettered with a failure report; when the wait queue cannot be reached the delivery
  goes back to the queue.

A report that fails is not the consumer's concern: it is made and its result dropped. A settling
call that fails ends the handling with its fault.
-/

namespace Courier.Worker

open Courier.Json Courier.Broker

/-- What happened to one delivery. -/
inductive Settlement where
  | delivered
  | discarded
  | dependencyDown
  | retried (attempt : Nat)
  | deadLettered
  | requeued
  deriving DecidableEq

/-- How a settlement is named. -/
def Settlement.name : Settlement → String
  | .delivered => "Delivered"
  | .discarded => "Discarded"
  | .dependencyDown => "DependencyDown"
  | .retried _ => "Retried"
  | .deadLettered => "DeadLettered"
  | .requeued => "Requeued"

/-- How many times a job is retried, and the services whose outage is not retried. -/
structure ConsumerSettings where
  maxRetries : Nat := 3
  dependencies : List String := ["template-service", "gateway-service"]

/-- A consumer of one channel's queue. -/
structure Consumer where
  handler : Handler
  topology : Topology
  settings : ConsumerSettings := {}

/-- Reads a payload as a job for this consumer. -/
def Consumer.parse (c : Consumer) (payload : String) : Outcome Job := do
  let v ← match Job.shape.readText payload with
    | .ok v => .ok v
    | .error e => .error (.malformed e.message)
  let job := Job.ofValue v
  if job.channel != c.handler.channel then
    throw (.malformed (job.channel.name ++ " job delivered to the " ++ c.handler.channel.name ++
      " worker"))
  if Text.isBlankText job.requestId then throw (.malformed "Missing request_id")
  c.handler.validate job
  pure job

/-- Makes a settling call; its failure ends the handling. -/
def settleWith {m : Type → Type} [Monad m] (p : Ports m) (call : AckCall) (s : Settlement) :
    m (Outcome Settlement) := do
  match ← p.settle call with
  | .ok _ => pure (.ok s)
  | .error f => pure (.error f)

/-- Reports an update on the consumer's channel, dropping the result. -/
def Consumer.report {m : Type → Type} [Monad m] (p : Ports m) (c : Consumer) (u : StatusUpdate) :
    m Unit := do
  let _ ← p.report c.handler.channel u

/-- Settles a job whose delivery failed with `f`. -/
def Consumer.settleFailure {m : Type → Type} [Monad m] (p : Ports m) (c : Consumer)
    (now : Time.Instant) (job : Job) (payload : String) (retryCount : Nat) (f : Fault) :
    m (Outcome Settlement) := do
  let failed := StatusUpdate.failed job.requestId f.message now
  match classify f c.settings.dependencies with
  | .discard =>
    c.report p failed
    settleWith p .reject .discarded
  | .terminal =>
    c.report p failed
    settleWith p .reject .deadLettered
  | .dependencyDown => settleWith p .reject .dependencyDown
  | .retry =>
    if retryCount < c.settings.maxRetries then
      let attempt := retryCount + 1
      match ← p.publish (c.topology.waitRoutingKey attempt) payload (PublishOptions.retry attempt) with
      | .ok _ => settleWith p .ack (.retried attempt)
      | .error _ => settleWith p .requeue .requeued
    else
      c.report p failed
      settleWith p .reject .deadLettered

/-- Handles one delivery end to end and settles it exactly once. -/
def Consumer.handle {m : Type → Type} [Monad m] (p : Ports m) (c : Consumer) (now : Time.Instant)
    (payload : String) (retryCount : Nat) : m (Outcome Settlement) := do
  match c.parse payload with
  | .error _ => settleWith p .reject .discarded
  | .ok job =>
    match ← c.handler.deliver p job with
    | .ok _ =>
      match ← p.settle .ack with
      | .error f => pure (.error f)
      | .ok _ =>
        c.report p (StatusUpdate.delivered job.requestId now)
        pure (.ok .delivered)
    | .error f => c.settleFailure p now job payload retryCount f

/-- Handles a delivery with the retry count its headers carry. A delivery whose settling call
failed stays unsettled, and the broker delivers it again. -/
def Consumer.dispatch {m : Type → Type} [Monad m] (p : Ports m) (c : Consumer)
    (now : Time.Instant) (payload : String) (headers : Option FieldTable) :
    m (Outcome Settlement) :=
  c.handle p now payload (retryCountFrom headers)

end Courier.Worker
