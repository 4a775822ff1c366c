import Courier.Json.Value

/-!
# Push messages

A push notification addressed to one device token, and the body of the FCM HTTP v1 request that
sends it. Jobs of priority above 5 go out as high priority. Android and APNs show the image when
there is one, Android and the web open the link.
-/

namespace Courier

open Json

/-- The delivery priority of a push notification. -/
inductive PushPriority where
  | normal
  | high
  deriving DecidableEq

/-- How a push priority is written. -/
def PushPriority.name : PushPriority → String
  | .normal => "NORMAL"
  | .high => "HIGH"

/-- The push priority of a job priority: high above 5. -/
def PushPriority.ofJobPriority (p : Nat) : PushPriority := if p > 5 then .high else .normal

/-- One rendered push notification for a single device. -/
structure PushMessage where
  token : String
  title : String
  body : String
  image : Option String := none
  link : Option String := none
  data : List (String × String) := []
  priority : PushPriority
  ttlSeconds : Nat

/-- The JSON fields for the present options. -/
def optionalFields (fs : List (String × Option Value)) : List (String × Value) :=
  fs.filterMap fun (k, v) => v.map (k, ·)

/-- The body of the FCM request for a push message. -/
def PushMessage.fcmRequest (m : PushMessage) : Value :=
  let aps := Value.object [("aps", .object [("sound", .str "default"), ("badge", .nat 1),
    ("mutable-content", .nat 1), ("content-available", .nat 1)])]
  let notification := Value.object ([("title", .str m.title), ("body", .str m.body)] ++
    optionalFields [("image", m.image.map .str)])
  let android := Value.object [("priority", .str m.priority.name),
    ("ttl", .str (toString m.ttlSeconds ++ "s")),
    ("notification", .object (optionalFields [("image", m.image.map .str),
      ("click_action", m.link.map .str)]))]
  let apns := Value.object ([("payload", aps)] ++
    optionalFields [("fcm_options", m.image.map fun i => .object [("image", .str i)])])
  let webpush := Value.object
    (optionalFields [("fcm_options", m.link.map fun l => .object [("link", .str l)])])
  let data := if m.data.isEmpty then []
    else [("data", Value.object (m.data.map fun (k, v) => (k, Value.str v)))]
  .object [("message", .object ([("token", .str m.token), ("notification", notification),
    ("android", android), ("apns", apns), ("webpush", webpush)] ++ data))]

end Courier
