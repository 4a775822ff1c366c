import Courier.Service.Caller
import Courier.Message.Template
import Courier.Message.Recipient
import Courier.Message.Status
import Courier.Message.Channel
import Courier.Json.Check

/-!
# Clients of the internal services

The workers reach three services by name through a `Caller`:

* the template service, at `GET /api/v1/templates/<code>`; an answer without data means the
  template does not exist, and data of the wrong form is an internal fault;
* the user service, at `GET /api/v1/users` with the user's id in `x-user-id`; users are cached
  for a while, and a cached user is served without a request;
* the gateway, told of every delivery's outcome at `POST /api/v1/notifications/<channel>/status`
  with the internal secret in `x-internal-secret`.

A header value that HTTP does not allow fails before anything is resolved or sent.
-/

namespace Courier.Service

open Courier.Json Courier.Net Courier.Breaker

/-- Users fetched recently, each with the time it was fetched. -/
structure UserCache where
  /-- how long an entry is served, in nanoseconds -/
  ttl : Nat
  entries : List (String × User × Nat) := []

/-- The cached user of an id that is still fresh at `now`. -/
def UserCache.get? (c : UserCache) (id : String) (now : Nat) : Option User :=
  match c.entries.find? (·.1 == id) with
  | some (_, u, t) => if now - t < c.ttl then some u else none
  | none => none

/-- Caches a user fetched at `now`. -/
def UserCache.insert (c : UserCache) (id : String) (u : User) (now : Nat) : UserCache :=
  { c with entries := (id, u, now) :: c.entries.filter (·.1 != id) }

/-- Drops the cached user of an id. -/
def UserCache.invalidate (c : UserCache) (id : String) : UserCache :=
  { c with entries := c.entries.filter (·.1 != id) }

/-- The clients of the template service, the user service and the gateway, with the caller
they share. -/
structure Clients where
  caller : Caller
  templateService : String := "template-service"
  userService : String := "user-service"
  gatewayService : String := "gateway-service"
  /-- the secret that proves a status report comes from inside -/
  secret : String
  users : UserCache

/-- The header carrying the internal secret. -/
def internalSecretHeader : String := "x-internal-secret"

/-- Calls a service through the shared caller. -/
def Clients.call (net : Network) (c : Clients) (now : Nat) (service : String)
    (req : ServiceRequest) : Outcome Value × Clients :=
  let (r, caller) := c.caller.call net now service req
  (r, { c with caller })

/-- Fetches the template of a code. -/
def Clients.fetchTemplate (net : Network) (c : Clients) (now : Nat) (code : String) :
    Outcome MessageTemplate × Clients :=
  let (r, c) := c.call net now c.templateService (.get ("/api/v1/templates/" ++ code))
  let result := r >>= fun body =>
    match responseData body with
    | .null => .error (.notFound ("Template '" ++ code ++ "'"))
    | data =>
      match MessageTemplate.shape.readValue data with
      | .ok v => .ok (MessageTemplate.ofValue v)
      | .error e =>
        .error (.internal ("Unexpected template payload for '" ++ code ++ "': " ++ e.message))
  (result, c)

/-- The request for a user's record; an id that a header cannot carry fails before anything is
sent. -/
def userRequest (id : String) : Outcome ServiceRequest :=
  (ServiceRequest.get "/api/v1/users").withHeader "x-user-id" id

/-- The user in the answer of the user service called `service`; data of the wrong form is an
internal fault. -/
def readUser (service : String) (r : Outcome Value) : Outcome User :=
  r >>= fun body =>
    match User.shape.readValue (responseData body) with
    | .ok v => .ok (User.ofValue v)
    | .error e => .error (.internal ("Unexpected user payload from " ++ service ++ ": " ++ e.message))

/-- The cache after a lookup of `id` ended at `now`: a user found is kept, a failure leaves the
cache as it was. -/
def UserCache.keep (c : UserCache) (id : String) (now : Nat) : Outcome User → UserCache
  | .ok u => c.insert id u now
  | .error _ => c

/-- Fetches a user, from the cache when it holds a fresh copy. -/
def Clients.getUser (net : Network) (c : Clients) (now : Nat) (id : String) :
    Outcome User × Clients :=
  match c.users.get? id now with
  | some u => (.ok u, c)
  | none =>
    match userRequest id with
    | .error f => (.error f, c)
    | .ok req =>
      let (r, c) := c.call net now c.userService req
      let result := readUser c.userService r
      (result, { c with users := c.users.keep id now result })

/-- Forgets the cached copy of a user. -/
def Clients.invalidate (c : Clients) (id : String) : Clients :=
  { c with users := c.users.invalidate id }

/-- Tells the gateway of a delivery's outcome on a channel. -/
def Clients.report (net : Network) (c : Clients) (now : Nat) (channel : Channel)
    (update : StatusUpdate) : Outcome Unit × Clients :=
  let req := ServiceRequest.post ("/api/v1/notifications/" ++ channel.name ++ "/status")
    update.toValue
  match req.withHeader internalSecretHeader c.secret with
  | .error f => (.error f, c)
  | .ok req =>
    let (r, c) := c.call net now c.gatewayService req
    (r.map fun _ => (), c)

end Courier.Service
