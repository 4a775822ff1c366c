import Courier.Net.Url

/-!
# HTTP exchanges

A request goes out to an absolute `http` or `https` URL; the network either answers it with a
status and a body or fails to deliver it. A `Network` is that choice as a function, so the
clients built on it are pure and can be run against any network: one that answers from a table,
or one that reaches nothing. Clients written over any monad send through a port whose
`HttpOutcome` may also be that no answer comes at all.

A target that is not a URL, or not one with a host and an HTTP scheme, fails before anything is
sent, as a builder error.
-/

namespace Courier.Net

/-- Why a request got no usable answer. -/
inductive TransportError where
  /-- the request could not be built; the URL is known when it parsed -/
  | builder (url : Option Url)
  /-- the request was built but not delivered -/
  | send (url : Url)
  /-- the answer's body could not be read as the data asked for -/
  | decode

/-- The text of a transport error. -/
def TransportError.message : TransportError → String
  | .builder none => "builder error"
  | .builder (some u) => "builder error for url (" ++ u.render ++ ")"
  | .send u => "error sending request for url (" ++ u.render ++ ")"
  | .decode => "error decoding response body"

/-- A request as it goes out. -/
structure HttpRequest where
  method : String
  url : Url
  headers : List (String × String) := []
  body : Option String := none

/-- An answer: its status and its body. -/
structure HttpResponse where
  status : Nat
  body : String

/-- What becomes of each request sent. -/
abbrev Network := HttpRequest → Except TransportError HttpResponse

/-- What becomes of one request that goes out: it is answered, it fails, or no answer ever
comes. -/
inductive HttpOutcome where
  | answered (r : HttpResponse)
  | failed (e : TransportError)
  | silent

/-- What a request gets from a network that always answers or fails. -/
def HttpOutcome.ofExcept : Except TransportError HttpResponse → HttpOutcome
  | .ok r => .answered r
  | .error e => .failed e

/-- A network that delivers nothing. -/
def Network.unreachable : Network := fun r => .error (.send r.url)

/-- The URL a request may go to: one that parses, has a host, and is `http` or `https`. -/
def requestUrl (target : String) : Except TransportError Url :=
  match Url.parse target with
  | .error _ => .error (.builder none)
  | .ok u =>
    if u.host.isNone || !(u.scheme == "http" || u.scheme == "https") then .error (.builder (some u))
    else .ok u

/-- Whether a status is a success. -/
def isSuccess (status : Nat) : Bool := 200 ≤ status && status < 300

/-- The standard reason phrase of a status. -/
def reasonPhrase? : Nat → Option String
  | 100 => some "Continue" | 101 => some "Switching Protocols" | 102 => some "Processing"
  | 200 => some "OK" | 201 => some "Created" | 202 => some "Accepted"
  | 203 => some "Non Authoritative Information" | 204 => some "No Content"
  | 205 => some "Reset Content" | 206 => some "Partial Content" | 207 => some "Multi-Status"
  | 208 => some "Already Reported" | 226 => some "IM Used"
  | 300 => some "Multiple Choices" | 301 => some "Moved Permanently" | 302 => some "Found"
  | 303 => some "See Other" | 304 => some "Not Modified" | 305 => some "Use Proxy"
  | 307 => some "Temporary Redirect" | 308 => some "Permanent Redirect"
  | 400 => some "Bad Request" | 401 => some "Unauthorized" | 402 => some "Payment Required"
  | 403 => some "Forbidden" | 404 => some "Not Found" | 405 => some "Method Not Allowed"
  | 406 => some "Not Acceptable" | 407 => some "Proxy Authentication Required"
  | 408 => some "Request Timeout" | 409 => some "Conflict" | 410 => some "Gone"
  | 411 => some "Length Required" | 412 => some "Precondition Failed"
  | 413 => some "Payload Too Large" | 414 => some "URI Too Long"
  | 415 => some "Unsupported Media Type" | 416 => some "Range Not Satisfiable"
  | 417 => some "Expectation Failed" | 418 => some "I'm a teapot"
  | 421 => some "Misdirected Request" | 422 => some "Unprocessable Entity" | 423 => some "Locked"
  | 424 => some "Failed Dependency" | 426 => some "Upgrade Required"
  | 428 => some "Precondition Required" | 429 => some "Too Many Requests"
  | 431 => some "Request Header Fields Too Large" | 451 => some "Unavailable For Legal Reasons"
  | 500 => some "Internal Server Error" | 501 => some "Not Implemented"
  | 502 => some "Bad Gateway" | 503 => some "Service Unavailable" | 504 => some "Gateway Timeout"
  | 505 => some "HTTP Version Not Supported" | 506 => some "Variant Also Negotiates"
  | 507 => some "Insufficient Storage" | 508 => some "Loop Detected" | 510 => some "Not Extended"
  | 511 => some "Network Authentication Required"
  | _ => none

/-- A status with its reason phrase, as in `404 Not Found`. -/
def statusText (status : Nat) : String :=
  toString status ++ " " ++ (reasonPhrase? status).getD "<unknown status code>"

end Courier.Net
