import Courier.Broker.Field
import Courier.Message.Request

/-!
# Publishing options

A message is published persistent and as JSON. It may carry a priority (at most the highest
request priority) and a retry count, which travels in the `x-retry-count` header. Reading the
count back accepts any numeric header value that, cut to an integer, fits an unsigned 32-bit
word; anything else counts as no retry.
-/

namespace Courier.Broker

/-- The header that carries the retry count. -/
def retryCountHeader : String := "x-retry-count"

/-- What a publish asks for beyond the payload. -/
structure PublishOptions where
  priority : Option Nat := none
  retryCount : Option Nat := none

/-- The properties a message is published with. -/
structure Properties where
  deliveryMode : Nat := 2
  contentType : String := "application/json"
  priority : Option Nat := none
  headers : Option FieldTable := none

namespace PublishOptions

/-- Options with a priority. -/
def withPriority (p : Nat) : PublishOptions := { priority := some p }

/-- Options of a retry. -/
def retry (count : Nat) : PublishOptions := { retryCount := some count }

/-- The message properties of the options. -/
def properties (o : PublishOptions) : Properties :=
  { priority := o.priority.map (min · maxPriority),
    headers := o.retryCount.map fun n => [(retryCountHeader, .longLongInt n)] }

end PublishOptions

/-- The retry count a message carries: 0 without headers, without the header, or when its value
is no integer from 0 to `2^32 - 1`. -/
def retryCountFrom (headers : Option FieldTable) : Nat :=
  match headers with
  | none => 0
  | some table =>
    match (table.find? (fun kv => kv.1 == retryCountHeader)).bind (fun kv => kv.2.asInt?) with
    | some i => if 0 ≤ i && i ≤ 4294967295 then i.toNat else 0
    | none => 0

end Courier.Broker
