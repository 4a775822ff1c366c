import Courier.Message.Channel
import Courier.Time.Instant

/-!
# Delivery status

The gateway keeps one record per request: its status (pending, delivered or failed), the
channel and priority it was queued with, the last error, and when it last changed. Workers send
status updates; applying one replaces status and error, and the time with the update's time, or
with the present moment when the update has none.
-/

namespace Courier

open Json Time

/-- Where a notification stands. -/
inductive DeliveryStatus where
  | pending
  | delivered
  | failed
deriving DecidableEq, Repr

namespace DeliveryStatus

/-- The name of a status. -/
def name : DeliveryStatus → String
  | .pending => "pending"
  | .delivered => "delivered"
  | .failed => "failed"

/-- The status of a name, if it names one. -/
def ofName? : String → Option DeliveryStatus
  | "pending" => some .pending
  | "delivered" => some .delivered
  | "failed" => some .failed
  | _ => none

theorem ofName?_name (s : DeliveryStatus) : ofName? s.name = some s := by
  cases s <;> rfl

/-- The JSON shape of a status. -/
def shape : Shape := .choice ["pending", "delivered", "failed"]

end DeliveryStatus

/-- An instant from its normal UTC text, the epoch if the text is none. -/
def instantOfText (s : String) : Instant :=
  match Instant.parse s with
  | .ok t => t
  | .error _ => ⟨0, 0⟩

/-- The state of one request. -/
structure StatusRecord where
  requestId : String
  status : DeliveryStatus
  channel : Option Channel := none
  priority : Nat := 0
  error : Option String := none
  timestamp : Instant

/-- A report from a worker on one request. -/
structure StatusUpdate where
  requestId : String
  status : DeliveryStatus
  timestamp : Option Instant := none
  error : Option String := none

namespace StatusRecord

/-- The JSON shape of a record. -/
def shape : Shape :=
  .record "NotificationRecord"
    [("request_id", .text, false), ("status", DeliveryStatus.shape, false),
     ("notification_type", .optional Channel.shape, true), ("priority", .byte, true),
     ("error", .optional .text, true), ("timestamp", .instant, false)]

/-- A record from a value in the normal form of `shape`. -/
def ofValue (v : Value) : StatusRecord where
  requestId := ((v.field "request_id").str?).getD ""
  status := (((v.field "status").str?).bind DeliveryStatus.ofName?).getD .pending
  channel := ((v.field "notification_type").str?).bind Channel.ofName?
  priority := match v.field "priority" with
    | .num (.int i) => i.toNat
    | _ => 0
  error := (v.field "error").str?
  timestamp := instantOfText (((v.field "timestamp").str?).getD "")

/-- A record as JSON; an absent channel is left out. -/
def toValue (r : StatusRecord) : Value :=
  .object ([("request_id", .str r.requestId), ("status", .str r.status.name),
    ("priority", .nat r.priority), ("error", .optStr r.error),
    ("timestamp", .str r.timestamp.render)] ++
    match r.channel with
    | some c => [("notification_type", c.toValue)]
    | none => [])

/-- The key a record is stored under. -/
def key (requestId : String) : String := "notification:" ++ requestId

/-- A new pending record. -/
def pending (requestId : String) (c : Channel) (priority : Nat) (now : Instant) : StatusRecord :=
  { requestId, status := .pending, channel := some c, priority, timestamp := now }

/-- A record with an update applied at the moment `now`. -/
def apply (r : StatusRecord) (u : StatusUpdate) (now : Instant) : StatusRecord :=
  { r with status := u.status, error := u.error, timestamp := u.timestamp.getD now }

end StatusRecord

namespace StatusUpdate

/-- The JSON shape of an update. -/
def shape : Shape :=
  .record "StatusUpdate"
    [("request_id", .text, false), ("status", DeliveryStatus.shape, false),
     ("timestamp", .optional .instant, true), ("error", .optional .text, true)]

/-- An update from a value in the normal form of `shape`. -/
def ofValue (v : Value) : StatusUpdate where
  requestId := ((v.field "request_id").str?).getD ""
  status := (((v.field "status").str?).bind DeliveryStatus.ofName?).getD .pending
  timestamp := ((v.field "timestamp").str?).map instantOfText
  error := (v.field "error").str?

/-- An update as JSON; an absent error is left out. -/
def toValue (u : StatusUpdate) : Value :=
  .object ([("request_id", .str u.requestId), ("status", .str u.status.name),
    ("timestamp", Value.ofOption (fun t => .str t.render) u.timestamp)] ++
    match u.error with
    | some e => [("error", .str e)]
    | none => [])

/-- The update a worker sends after a delivery. -/
def delivered (requestId : String) (now : Instant) : StatusUpdate :=
  { requestId, status := .delivered, timestamp := some now }

/-- The update a worker sends after a failure. -/
def failed (requestId error : String) (now : Instant) : StatusUpdate :=
  { requestId, status := .failed, timestamp := some now, error := some error }

end StatusUpdate

end Courier
