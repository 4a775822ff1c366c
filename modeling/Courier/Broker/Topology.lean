import Courier.Broker.Field
import Courier.Message.Channel
import Courier.Message.Request

/-!
# Queue topology of a channel

Each channel has a main queue bound to its routing key, wait queues where failed deliveries sit
until their time-to-live sends them back to the main queue, and a failed queue for dead letters.
With a backoff multiplier above 1 there is one wait queue per retry ("hop"), each waiting
`multiplier` times longer than the one before, up to `maxRetries` hops; otherwise a single wait
queue waits the base delay. Delays are 64-bit and stop at the largest such value.
-/

namespace Courier.Broker

/-- The largest unsigned 64-bit value. -/
def u64Max : Nat := 18446744073709551615

/-- `b ^ e`, stopping at `u64Max`. -/
def saturatingPow (b e : Nat) : Nat :=
  if b ≤ 1 then Nat.pow b e
  else if e ≥ 64 then u64Max
  else min (Nat.pow b e) u64Max

/-- The queues and their arguments for one channel on one exchange. -/
structure Topology where
  exchange : String
  routingKey : String
  retryDelayMs : Nat
  backoffMultiplier : Nat := 1
  maxRetries : Nat := 1

namespace Topology

/-- The topology of a channel, with a single wait queue. -/
def new (exchange : String) (c : Channel) (retryDelayMs : Nat) : Topology :=
  { exchange, routingKey := c.name, retryDelayMs }

/-- The topology with a backoff: both numbers are at least 1. -/
def withBackoff (t : Topology) (multiplier maxRetries : Nat) : Topology :=
  { t with backoffMultiplier := max multiplier 1, maxRetries := max maxRetries 1 }

/-- Whether each retry has a wait queue of its own. -/
def perHop (t : Topology) : Bool := t.backoffMultiplier > 1

/-- The hop of an attempt: the attempt number kept between 1 and `maxRetries`. -/
def hop (t : Topology) (attempt : Nat) : Nat := min (max attempt 1) t.maxRetries

/-- The main queue. -/
def mainQueue (t : Topology) : String := t.routingKey ++ ".queue"

/-- The wait queue of an attempt. -/
def waitQueue (t : Topology) (attempt : Nat) : String :=
  if t.perHop then t.routingKey ++ ".wait." ++ toString (t.hop attempt)
  else t.routingKey ++ ".wait"

/-- The routing key of an attempt's wait queue, which is its name. -/
def waitRoutingKey (t : Topology) (attempt : Nat) : String := t.waitQueue attempt

/-- The wait queues with their hops. -/
def waitQueues (t : Topology) : List (Nat × String) :=
  let hops := if t.perHop then t.maxRetries else 1
  (List.range hops).map fun i => (i + 1, t.waitQueue (i + 1))

/-- The queue for dead letters. -/
def failedQueue (t : Topology) : String := t.routingKey ++ ".failed"

/-- The routing key of dead letters. -/
def failedRoutingKey (t : Topology) : String := t.routingKey ++ ".failed"

/-- How long an attempt waits: the base delay times the multiplier once per earlier hop. -/
def waitDelayMs (t : Topology) (attempt : Nat) : Nat :=
  if !t.perHop then t.retryDelayMs
  else min (t.retryDelayMs * saturatingPow t.backoffMultiplier (t.hop attempt - 1)) u64Max

/-- The arguments of the main queue: dead letters go to the failed routing key, and messages
have priorities up to the highest request priority. -/
def mainQueueArguments (t : Topology) : FieldTable :=
  [("x-dead-letter-exchange", .longString t.exchange),
   ("x-dead-letter-routing-key", .longString t.failedRoutingKey),
   ("x-max-priority", .shortShortUInt maxPriority)]

/-- The arguments of an attempt's wait queue: messages expire after the attempt's delay
(at most the largest signed 64-bit value) back to the channel's routing key. -/
def waitQueueArguments (t : Topology) (attempt : Nat) : FieldTable :=
  [("x-message-ttl", .longLongInt (min (t.waitDelayMs attempt) int64Max.toNat)),
   ("x-dead-letter-exchange", .longString t.exchange),
   ("x-dead-letter-routing-key", .longString t.routingKey)]

/-- The queues declared for the channel, with their arguments: the main queue, each wait queue
with the arguments of its hop, and the failed queue with none. -/
def declarations (t : Topology) : List (String × FieldTable) :=
  [(t.mainQueue, t.mainQueueArguments)] ++
    t.waitQueues.map (fun (hop, q) => (q, t.waitQueueArguments hop)) ++ [(t.failedQueue, [])]

/-- The bindings, queue to routing key: the main queue, each wait queue to its own name, and
the failed queue. -/
def bindings (t : Topology) : List (String × String) :=
  [(t.mainQueue, t.routingKey)] ++ t.waitQueues.map (fun (_, q) => (q, q)) ++
    [(t.failedQueue, t.failedRoutingKey)]

end Topology

end Courier.Broker
