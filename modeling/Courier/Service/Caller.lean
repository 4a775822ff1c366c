import Courier.Net.Http
import Courier.Breaker.Circuit
import Courier.Service.Request
import Courier.Message.Endpoint
import Courier.Json.Read
import Courier.Json.Write
import Courier.Text.Blank

/-!
# Calling services by name

A call to a service goes in two steps. Discovery asks the service catalog at
`<base>/catalog/service/<name>` where the service is, and takes the first entry; nothing is
cached, so every call asks again. The request then goes to that endpoint under the service's
circuit breaker, whose time limit cuts off a service that does not answer. The calls are written
over any monad, with the sending of requests as a port (`resolveWith`, `sendWith`,
`Caller.callWith`); against a `Network` they are pure (`resolve`, `Caller.call`).

* A catalog that cannot be reached, answers with an error status, or answers with something
  other than a list of entries makes the service's discovery unavailable; an empty list means
  the service does not exist. Discovery happens before the breaker is consulted, so its failures
  never count against it.
* The answer's body is read as JSON when it is, kept as text when it is not, and is `null` when
  blank. A success status gives the body; any other status is a `downstream` fault carrying it.
-/

namespace Courier.Service

open Courier.Json Courier.Net Courier.Breaker

/-- Where the catalog lists a service. -/
def catalogUrl (base name : String) : String := base ++ "/catalog/service/" ++ name

/-- What the catalog's outcome for the lookup of `name` at `url` says. A catalog that never
answers is cut off by the discovery client's own time limit, like a request that could not be
sent. -/
def readCatalog (name : String) (url : Url) : HttpOutcome → Outcome Endpoint
  | .failed e => .error (.discoveryUnavailable name e.message)
  | .silent => .error (.discoveryUnavailable name (TransportError.send url).message)
  | .answered r =>
    if !isSuccess r.status then
      .error (.discoveryUnavailable name ("catalog lookup returned " ++ statusText r.status))
    else
      match (Shape.list CatalogEntry.shape).readText r.body with
      | .error _ =>
        .error (.discoveryUnavailable name ("invalid catalog response: " ++ TransportError.decode.message))
      | .ok (.arr (entry :: _)) => .ok ((CatalogEntry.ofValue entry).toEndpoint name)
      | .ok _ => .error (.notFound ("Service '" ++ name ++ "'"))

/-- Resolves a service by name through the catalog at `base`, sending the lookup with `send`. -/
def resolveWith {m : Type → Type} [Monad m] (send : HttpRequest → m HttpOutcome) (base name : String) :
    m (Outcome Endpoint) :=
  match requestUrl (catalogUrl base name) with
  | .error e => pure (.error (.discoveryUnavailable name e.message))
  | .ok url => readCatalog name url <$> send { method := "GET", url }

/-- Resolves a service by name through the catalog at `base`, over `net`. -/
def resolve (net : Network) (base name : String) : Outcome Endpoint :=
  Id.run (resolveWith (fun r => pure (.ofExcept (net r))) base name)

/-- The body of an answer: `null` when blank, JSON when it parses, else the text itself. -/
def answerBody (text : String) : Value :=
  if Text.isBlankText text then .null
  else
    match Value.parse text with
    | .ok v => v
    | .error _ => .str text

/-- The request that goes out to `url` for `req`: its query appended to the URL, and a JSON
body typed as such unless the request names a type. -/
def outgoing (url : String) (req : ServiceRequest) : Except TransportError HttpRequest :=
  match requestUrl url with
  | .error e => .error e
  | .ok u =>
    let u := if req.query.isEmpty then u else u.appendPairs req.query
    let typed := req.body.isSome && !(req.headers.any (·.1 == "content-type"))
    let headers := req.headers ++ (if typed then [("content-type", "application/json")] else [])
    .ok { method := req.method.name, url := u, headers, body := req.body.map Value.write }

/-- How a call to `service` ends, given what became of its request: the answer's body on a
success status, a `downstream` fault carrying it on any other, an unavailable service when the
request failed, and no end at all when no answer came. -/
def readAnswer (service : String) : HttpOutcome → Completion Value
  | .answered r =>
    let body := answerBody r.body
    if isSuccess r.status then .done body else .failed (.downstream service r.status body)
  | .failed e => .failed (.serviceUnavailable service e.message)
  | .silent => .stalled

/-- Sends a request to `url` of a service with `send`; a request that cannot be built fails
before anything is sent. -/
def sendWith {m : Type → Type} [Monad m] (send : HttpRequest → m HttpOutcome)
    (service url : String) (req : ServiceRequest) : m (Completion Value) :=
  match outgoing url req with
  | .error e => pure (.failed (.serviceUnavailable service e.message))
  | .ok r => readAnswer service <$> send r

/-- What calls services by name: the catalog's base URL and the breakers. -/
structure Caller where
  /-- the catalog's base URL, without trailing slashes -/
  discovery : String
  breakers : Registry

/-- A caller using the catalog at `url`. -/
def Caller.new (url : String) (config : BreakerConfig) : Caller :=
  { discovery := String.ofList (url.toList.reverse.dropWhile (· == '/')).reverse,
    breakers := { config } }

/-- Calls a service at `now`, sending with `send`: strips the hop headers, resolves the
service, and sends the request under its breaker, which is made on first use. -/
def Caller.callWith {m : Type → Type} [Monad m] (send : HttpRequest → m HttpOutcome) (c : Caller)
    (now : Nat) (service : String) (req : ServiceRequest) : m (Outcome Value × Caller) := do
  let req := req.stripHopHeaders
  match ← resolveWith send c.discovery service with
  | .error f => pure (.error f, c)
  | .ok endpoint =>
    let (r, b) := c.breakers.touch service
    let (result, b, _, _) ←
      b.callWith r.config service now (sendWith send service (endpoint.urlFor req.path) req)
    pure (result, { c with breakers := r.put service b })

/-- Calls a service at `now` over `net`. -/
def Caller.call (net : Network) (c : Caller) (now : Nat) (service : String) (req : ServiceRequest) :
    Outcome Value × Caller :=
  Id.run (c.callWith (fun r => pure (.ofExcept (net r))) now service req)

end Courier.Service
