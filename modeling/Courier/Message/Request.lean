import Courier.Message.Channel
import Courier.Text.Blank

/-!
# Notification requests

What a client asks the gateway for: send the template `templateCode` to the user `userId` on a
channel, filled with `variables`, with a priority from 0 to 10. The request id makes the
request idempotent. A request is valid when its three ids are not blank and its priority is at
most 10; the first rule broken, in that order, is the one reported.
-/

namespace Courier

open Json

/-- The highest priority a request may ask for. -/
def maxPriority : Nat := 10

/-- A request to send one notification. -/
structure NotificationRequest where
  requestId : String
  channel : Channel
  userId : String
  templateCode : String
  /-- template variables, sorted by name -/
  vars : List (String × Value) := []
  priority : Nat := 0

namespace NotificationRequest

/-- The JSON shape of a request. -/
def shape : Shape :=
  .record "NotificationRequest"
    [("request_id", .text, false), ("notification_type", Channel.shape, false),
     ("user_id", .text, false), ("template_code", .text, false),
     ("variables", .dict .any, true), ("priority", .byte, true)]

/-- A request from a value in the normal form of `shape`. -/
def ofValue (v : Value) : NotificationRequest where
  requestId := ((v.field "request_id").str?).getD ""
  channel := (((v.field "notification_type").str?).bind Channel.ofName?).getD .email
  userId := ((v.field "user_id").str?).getD ""
  templateCode := ((v.field "template_code").str?).getD ""
  vars := ((v.field "variables").obj?).getD []
  priority := match v.field "priority" with
    | .num (.int i) => i.toNat
    | _ => 0

/-- A request as JSON. -/
def toValue (r : NotificationRequest) : Value :=
  .object [("request_id", .str r.requestId), ("notification_type", r.channel.toValue),
    ("user_id", .str r.userId), ("template_code", .str r.templateCode),
    ("variables", .obj r.vars), ("priority", .nat r.priority)]

/-- Checks the rules of a request; the first one broken is reported. -/
def validate (r : NotificationRequest) : Outcome Unit :=
  if Text.isBlankText r.requestId then .error (.validation "request_id is required.")
  else if Text.isBlankText r.userId then .error (.validation "user_id is required.")
  else if Text.isBlankText r.templateCode then .error (.validation "template_code is required.")
  else if r.priority > maxPriority then
    .error (.validation ("priority must be between 0 and " ++ toString maxPriority ++ "."))
  else .ok ()

end NotificationRequest

end Courier
