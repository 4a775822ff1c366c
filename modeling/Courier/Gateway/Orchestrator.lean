import Courier.Message.Request
import Courier.Message.Recipient
import Courier.Message.Status
import Courier.Message.Job
import Courier.Broker.Publish
import Courier.Json.Write
import Courier.Time.Instant

/-!
# Orchestrating requests

The gateway queues each notification at most once per live request id.

* A request that breaks a rule is refused, and so is one for an unknown user.
* A user who turned the channel off gets nothing queued.
* A request id the store already knows is answered from its record: a failed record as previously
  failed, any other as already processed. Creating the pending record only when none exists
  settles the race between two requests with the same id the same way.
* Otherwise the pending record is written, and the job, carrying the user's canonical id and
  addresses, is published under the channel's routing key with the request's priority. A failed
  publish leaves the pending record in place to expire and is reported as the broker being
  unavailable.

Workers' status reports are folded into the stored record, which is recreated when it has
expired.
-/

namespace Courier.Gateway

open Courier.Json Courier.Broker

/-- What the gateway asks of the world. -/
structure GatewayPorts (m : Type → Type) where
  /-- the user of an id -/
  user : String → m (Outcome User)
  /-- drops any cached copy of a user -/
  invalidate : String → m Unit
  /-- the stored record of a request id -/
  lookup : String → m (Outcome (Option StatusRecord))
  /-- stores a record unless one exists for its request id, which is then returned -/
  create : StatusRecord → m (Outcome (Option StatusRecord))
  /-- stores a record, replacing any other for its request id -/
  store : StatusRecord → m (Outcome Unit)
  /-- publishes a payload under a routing key -/
  publish : String → String → PublishOptions → m (Outcome Unit)

/-- How a request was answered when it did not fail. -/
inductive HandleOutcome where
  | queued (r : StatusRecord)
  | disabledByUser
  | alreadyProcessed (r : StatusRecord)
  | previouslyFailed (r : StatusRecord)

/-- How an outcome is named. -/
def HandleOutcome.name : HandleOutcome → String
  | .queued _ => "Queued"
  | .disabledByUser => "DisabledByUser"
  | .alreadyProcessed _ => "AlreadyProcessed"
  | .previouslyFailed _ => "PreviouslyFailed"

/-- The record an outcome carries. -/
def HandleOutcome.record? : HandleOutcome → Option StatusRecord
  | .queued r | .alreadyProcessed r | .previouslyFailed r => some r
  | .disabledByUser => none

/-- The message an outcome is answered with. -/
def HandleOutcome.message (o : HandleOutcome) (c : Channel) : String :=
  match o with
  | .queued _ => c.name ++ " notification queued successfully."
  | .disabledByUser => c.name ++ " notifications disabled by user."
  | .alreadyProcessed _ => "Notification already processed."
  | .previouslyFailed _ => "Notification previously failed."

/-- The answer for a request id that already has a record. -/
def replay (r : StatusRecord) : HandleOutcome :=
  if r.status == .failed then .previouslyFailed r else .alreadyProcessed r

/-- The job a request becomes for a user. -/
def jobFor (req : NotificationRequest) (u : User) : Job where
  channel := req.channel
  requestId := req.requestId
  userId := some u.id
  templateCode := req.templateCode
  vars := req.vars
  priority := req.priority
  email := u.email
  pushTokens := u.pushTokens

/-- Handles a request at `now`. -/
def handleRequest {m : Type → Type} [Monad m] (p : GatewayPorts m) (now : Time.Instant)
    (req : NotificationRequest) : m (Outcome HandleOutcome) := ExceptT.run do
  liftExcept req.validate
  let u ← ExceptT.mk (p.user req.userId)
  if !u.accepts req.channel then return .disabledByUser
  if let some existing ← ExceptT.mk (p.lookup req.requestId) then return replay existing
  let pending := StatusRecord.pending req.requestId req.channel req.priority now
  if let some existing ← ExceptT.mk (p.create pending) then return replay existing
  let payload := (jobFor req u).toValue.write
  match ← ExceptT.lift (p.publish req.channel.name payload
      (PublishOptions.withPriority req.priority)) with
  | .ok _ => pure (.queued pending)
  | .error _ => throw (.serviceUnavailable "message_broker" "Failed to queue notification.")

/-- Folds a worker's report on a channel into the stored record at `now`. -/
def updateStatus {m : Type → Type} [Monad m] (p : GatewayPorts m) (now : Time.Instant)
    (c : Channel) (u : StatusUpdate) : m (Outcome StatusRecord) := ExceptT.run do
  if Text.isBlankText u.requestId then throw (.validation "request_id is required.")
  let record := match ← ExceptT.mk (p.lookup u.requestId) with
    | some existing => existing.apply u now
    | none =>
      ({ requestId := u.requestId, status := u.status, channel := some c, timestamp := now } :
        StatusRecord).apply u now
  ExceptT.mk (p.store record)
  pure record

/-- The stored record of a request id. -/
def statusOf {m : Type → Type} [Monad m] (p : GatewayPorts m) (requestId : String) :
    m (Outcome StatusRecord) := ExceptT.run do
  match ← ExceptT.mk (p.lookup requestId) with
  | some r => pure r
  | none => throw (.notFound "Notification")

end Courier.Gateway
