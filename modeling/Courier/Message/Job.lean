import Courier.Message.Channel

/-!
# Delivery jobs

The message the gateway puts on a channel's queue for a worker: which template to send to
whom, with the user's address or device tokens already looked up. An absent email is left out
of the JSON, an absent user id is written as `null`.
-/

namespace Courier

open Json

/-- One queued notification. -/
structure Job where
  channel : Channel
  requestId : String
  userId : Option String := none
  templateCode : String
  /-- template variables, sorted by name -/
  vars : List (String × Value) := []
  priority : Nat := 0
  email : Option String := none
  pushTokens : List String := []

namespace Job

/-- The JSON shape of a job. -/
def shape : Shape :=
  .record "NotificationJob"
    [("notification_type", Channel.shape, false), ("request_id", .text, false),
     ("user_id", .optional .text, true), ("template_code", .text, false),
     ("variables", .dict .any, true), ("priority", .byte, true),
     ("email", .optional .text, true), ("push_tokens", .list .text, true)]

/-- A job from a value in the normal form of `shape`. -/
def ofValue (v : Value) : Job where
  channel := (((v.field "notification_type").str?).bind Channel.ofName?).getD .email
  requestId := ((v.field "request_id").str?).getD ""
  userId := (v.field "user_id").str?
  templateCode := ((v.field "template_code").str?).getD ""
  vars := ((v.field "variables").obj?).getD []
  priority := match v.field "priority" with
    | .num (.int i) => i.toNat
    | _ => 0
  email := (v.field "email").str?
  pushTokens := (((v.field "push_tokens").arr?).getD []).filterMap Value.str?

/-- A job as JSON; an absent email is left out. -/
def toValue (j : Job) : Value :=
  .object ([("notification_type", j.channel.toValue), ("request_id", .str j.requestId),
    ("user_id", .optStr j.userId), ("template_code", .str j.templateCode),
    ("variables", .obj j.vars), ("priority", .nat j.priority),
    ("push_tokens", .strs j.pushTokens)] ++
    match j.email with
    | some e => [("email", .str e)]
    | none => [])

end Job

end Courier
