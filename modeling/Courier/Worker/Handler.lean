import Courier.Message.Email
import Courier.Message.Job
import Courier.Message.Push
import Courier.Message.Rendered
import Courier.Message.Status
import Courier.Broker.Publish
import Courier.Worker.Token
import Courier.Json.Write
import Courier.Text.Blank

/-!
# Channel handlers

A worker serves one channel. It talks to the world through `Ports`: the template source, the
provider that delivers messages, the broker it publishes to, the gateway it reports to, and the
acknowledger of the delivery at hand. The ports are functions into any monad, so the same
worker runs against live services or against recording fakes.

* The email handler needs a recipient address and a template code. It renders the template with
  the job's variables and sends one email from its sender address.
* The push handler needs push tokens and a template code. Tokens that fail the shape check are
  skipped, and a job with none left is malformed. Each remaining token gets its own message with
  the template's metadata (text as it is, other values as compact JSON), the job's user id and
  the template code as data; the job succeeds when at least one token was delivered.
-/

namespace Courier.Worker

open Courier.Json Courier.Broker

/-- A message a worker hands to a provider. -/
inductive Outbound where
  | email (m : EmailMessage)
  | push (m : PushMessage)

/-- The ways a delivery can be settled with the broker. -/
inductive AckCall where
  | ack
  | reject
  | requeue
  deriving DecidableEq

/-- How a settling call is written. -/
def AckCall.name : AckCall → String
  | .ack => "ack"
  | .reject => "reject"
  | .requeue => "requeue"

/-- What a worker asks of the world. -/
structure Ports (m : Type → Type) where
  /-- the template of a code -/
  template : String → m (Outcome MessageTemplate)
  /-- hands a message to its provider -/
  deliver : Outbound → m (Outcome Unit)
  /-- publishes a payload under a routing key -/
  publish : String → String → PublishOptions → m (Outcome Unit)
  /-- reports the outcome of a job on a channel -/
  report : Channel → StatusUpdate → m (Outcome Unit)
  /-- settles the delivery being handled -/
  settle : AckCall → m (Outcome Unit)

/-- How long a push notification is kept for an offline device, in seconds. -/
def pushTtlSeconds : Nat := 86400

/-- The handler of a channel; an email handler sends from its `sender` address. -/
inductive Handler where
  | email (sender : String)
  | push

/-- The channel a handler serves. -/
def Handler.channel : Handler → Channel
  | .email _ => .email
  | .push => .push

/-- The fields a job needs on the handler's channel; a missing one makes it malformed. -/
def Handler.validate : Handler → Job → Outcome Unit
  | .email _, job =>
    if (job.email.map Text.isBlankText).getD true then .error (.malformed "Missing email")
    else if Text.isBlankText job.templateCode then .error (.malformed "Missing template_code")
    else .ok ()
  | .push, job =>
    if job.pushTokens.isEmpty then .error (.malformed "No push tokens")
    else if Text.isBlankText job.templateCode then .error (.malformed "Missing template_code")
    else .ok ()

/-- Sets a key of a string map, replacing an earlier value. -/
def putEntry (k v : String) (kvs : List (String × String)) : List (String × String) :=
  kvs.filter (·.1 != k) ++ [(k, v)]

/-- The data a push message carries: the template's metadata, then the job's user id and the
template code, which replace metadata of the same names. -/
def pushData (t : MessageTemplate) (job : Job) : List (String × String) :=
  let base := (t.metadata.getD []).foldl (fun acc (k, v) =>
    putEntry k (match v with
      | .str s => s
      | other => other.write) acc) []
  let withUser := match job.userId with
    | some u => putEntry "user_id" u base
    | none => base
  putEntry "template_code" job.templateCode withUser

/-- Counts the delivered results and keeps the last failure. -/
def tally : List (Outcome Unit) → Nat × Option Fault
  | [] => (0, none)
  | r :: rest =>
    let (n, last) := tally rest
    match r with
    | .ok _ => (n + 1, last)
    | .error f => (n, last.orElse fun _ => some f)

/-- The outcome of a push batch: a failure only when no token was delivered. -/
def batchOutcome (tokens : Nat) (results : List (Outcome Unit)) : Outcome Unit :=
  match tally results with
  | (0, some f) =>
    .error (.delivery ("all " ++ toString tokens ++ " device tokens failed, last error: " ++
      f.message))
  | _ => .ok ()

/-- The push message for one device token; an empty link is left out. -/
def pushMessage (t : MessageTemplate) (r : Rendered) (data : List (String × String))
    (priority : PushPriority) (token : String) : PushMessage where
  token := token
  title := r.subject
  body := r.body
  image := t.imageUrl
  link := r.actionUrl.filter (!·.isEmpty)
  data := data
  priority := priority
  ttlSeconds := pushTtlSeconds

/-- Renders and delivers every unit of a job. -/
def Handler.deliver {m : Type → Type} [Monad m] (p : Ports m) (h : Handler) (job : Job) :
    m (Outcome Unit) :=
  match h with
  | .email sender => ExceptT.run do
    let recipient ← match job.email with
      | some e => pure e
      | none => throw (.malformed "Missing email")
    let t ← ExceptT.mk (p.template job.templateCode)
    let r ← liftExcept (t.render (.obj job.vars))
    ExceptT.mk (p.deliver (.email { recipient, sender, subject := r.subject, html := r.body }))
  | .push => ExceptT.run do
    let tokens := job.pushTokens.filter fun tok => (validatePushToken tok).toBool
    if tokens.isEmpty then throw (.malformed "No valid push tokens")
    let t ← ExceptT.mk (p.template job.templateCode)
    let r ← liftExcept (t.render (.obj job.vars))
    let data := pushData t job
    let priority := PushPriority.ofJobPriority job.priority
    let results ← (tokens.mapM fun tok => p.deliver (.push (pushMessage t r data priority tok)) :
      m (List (Outcome Unit)))
    liftExcept (batchOutcome tokens.length results)

end Courier.Worker
