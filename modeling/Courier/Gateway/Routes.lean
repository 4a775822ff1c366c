import Courier.Gateway.Orchestrator
import Courier.Gateway.Extract
import Courier.Gateway.Reply

/-!
# The gateway's HTTP routes

* `POST /api/v1/notifications` takes a request: 202 with a summary when queued, 200 with the
  summary when the user turned the channel off, 200 with the stored record for a request id
  already seen.
* `GET /api/v1/notifications/{request_id}` answers the stored record.
* `POST /api/v1/notifications/{channel}/status` takes a worker's report; it needs the internal
  secret.
* `DELETE /api/v1/internal/users/{user_id}/cache` drops a cached user with 204; it needs the
  internal secret.

Paths match exactly, segment by segment, and a parameter is one non-empty segment. A path that
matches no route is answered 404 and a method the route does not take 405, both without a body.
`HEAD` is taken wherever `GET` is, and answered without the body. Faults are answered as
`faultReply` makes them; a bad body is a validation fault.
-/

namespace Courier.Gateway

open Courier.Json

/-- An answer as it is sent: status, content type, and body. -/
structure Answer where
  status : Nat
  contentType : Option String
  body : Body

/-- The answer of a reply. -/
def Answer.ofReply (r : Reply) : Answer := ⟨r.status, r.body.contentType, r.body⟩

/-- The routes of the gateway. -/
inductive Route where
  | create
  | status (requestId : String)
  | report (channel : String)
  | forget (userId : String)

/-- The method a route takes. -/
def Route.method : Route → String
  | .create => "POST"
  | .status _ => "GET"
  | .report _ => "POST"
  | .forget _ => "DELETE"

/-- The route of a path, with its parameter still percent-encoded. -/
def routeOf (path : String) : Option Route :=
  match path.splitOn "/" with
  | ["", "api", "v1", "notifications"] => some .create
  | ["", "api", "v1", "notifications", id] => if id.isEmpty then none else some (.status id)
  | ["", "api", "v1", "notifications", ch, "status"] =>
    if ch.isEmpty then none else some (.report ch)
  | ["", "api", "v1", "internal", "users", u, "cache"] =>
    if u.isEmpty then none else some (.forget u)
  | _ => none

/-- The header that carries the internal secret. -/
def secretHeader : String := "x-internal-secret"

/-- Whether a request carries the internal secret. -/
def authorized (c : HttpCall) (secret : String) : Bool :=
  ((c.header? secretHeader).bind headerText?) == some secret

/-- The answer to a call without the internal secret. -/
def unauthorized : Reply :=
  { status := 401, body := .json (errorEnvelope none "Unauthorized internal request.") }

/-- The answer to a path parameter that is not UTF-8. -/
def badParam (key : String) : Reply := { status := 400, body := .text (invalidParamText key) }

/-- A reply for an outcome: the fault's reply, or what the handler makes of the value. -/
def replyOr {α : Type} (r : Outcome α) (k : α → Reply) : Reply :=
  match r with
  | .ok a => k a
  | .error f => faultReply f

/-- A JSON success reply. -/
def success (status : Nat) (data : Value) (message : String) : Reply :=
  { status, body := .json (successEnvelope data message) }

/-- Takes a notification request. -/
def createNotification {m : Type → Type} [Monad m] (p : GatewayPorts m) (now : Time.Instant)
    (c : HttpCall) : m Reply := do
  match c.jsonBody NotificationRequest.shape with
  | .error rej => pure (faultReply (.validation rej.text))
  | .ok v =>
    let req := NotificationRequest.ofValue v
    let summary := Value.object [("request_id", .str req.requestId),
      ("notification_type", req.channel.toValue), ("priority", .nat req.priority)]
    let r ← handleRequest p now req
    pure <| replyOr r fun o =>
      let message := o.message req.channel
      match o with
      | .queued _ => success 202 summary message
      | .disabledByUser => success 200 summary message
      | .alreadyProcessed record | .previouslyFailed record => success 200 record.toValue message

/-- Takes a worker's report on a channel. -/
def reportStatus {m : Type → Type} [Monad m] (p : GatewayPorts m) (secret : String)
    (now : Time.Instant) (c : HttpCall) (channel : String) : m Reply := do
  if !authorized c secret then return unauthorized
  match Channel.parse channel with
  | .error f => pure (faultReply f)
  | .ok ch =>
    match c.jsonBody StatusUpdate.shape with
    | .error rej => pure (faultReply (.validation rej.text))
    | .ok v =>
      let r ← updateStatus p now ch (StatusUpdate.ofValue v)
      pure <| replyOr r fun record =>
        success 200 record.toValue (ch.name ++ " notification status updated.")

/-- Answers the call of a route. -/
def serveRoute {m : Type → Type} [Monad m] (p : GatewayPorts m) (secret : String)
    (now : Time.Instant) (c : HttpCall) : Route → m Reply
  | .create => createNotification p now c
  | .status raw =>
    match decodeParam raw with
    | none => pure (badParam "request_id")
    | some id => do
      let r ← statusOf p id
      pure <| replyOr r fun record => success 200 record.toValue "Notification retrieved."
  | .report raw =>
    match decodeParam raw with
    | none => pure (badParam "channel")
    | some ch => reportStatus p secret now c ch
  | .forget raw =>
    match decodeParam raw with
    | none => pure (badParam "user_id")
    | some u => do
      if !authorized c secret then return unauthorized
      p.invalidate u
      pure { status := 204 }

/-- Answers a request to the gateway. -/
def serve {m : Type → Type} [Monad m] (p : GatewayPorts m) (secret : String) (now : Time.Instant)
    (c : HttpCall) : m Answer := do
  match routeOf c.path with
  | none => pure ⟨404, none, .empty⟩
  | some route =>
    if c.method == route.method then Answer.ofReply <$> serveRoute p secret now c route
    else if c.method == "HEAD" && route.method == "GET" then do
      let a := Answer.ofReply (← serveRoute p secret now c route)
      pure { a with body := .empty }
    else pure ⟨405, none, .empty⟩

end Courier.Gateway
