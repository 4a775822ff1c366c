import Courier.Fault

/-!
# Requests to other services

A request is addressed to a service by name and a path; discovery turns the name into an
address. Header values are checked as HTTP allows them: every byte a visible character, a space,
a tab or above 127. Setting a header replaces any earlier value of that name. The headers that
describe the inbound hop, `content-length` and `host`, are dropped before the request goes out.
Answers of the internal services wrap their payload as `{"data": …}`.
-/

namespace Courier.Service

open Courier.Json

/-- The methods the services are called with. -/
inductive Method where
  | get
  | post
  deriving DecidableEq

/-- How a method is written. -/
def Method.name : Method → String
  | .get => "GET"
  | .post => "POST"

/-- A request to a service. -/
structure ServiceRequest where
  method : Method
  path : String
  headers : List (String × String) := []
  query : List (String × String) := []
  body : Option Value := none

/-- A `GET` request. -/
def ServiceRequest.get (path : String) : ServiceRequest := { method := .get, path := path }

/-- A `POST` request with a JSON body. -/
def ServiceRequest.post (path : String) (body : Value) : ServiceRequest :=
  { method := .post, path := path, body := some body }

/-- Whether a byte may stand in a header value. -/
def headerByteOk (b : UInt8) : Bool := (b ≥ 32 && b != 127) || b == 9

/-- Sets a header, or fails with a validation fault when the value is not allowed. -/
def ServiceRequest.withHeader (r : ServiceRequest) (name value : String) : Outcome ServiceRequest :=
  if value.toUTF8.toList.all headerByteOk then
    .ok { r with headers := r.headers.filter (·.1 != name) ++ [(name, value)] }
  else .error (.validation ("Invalid value for header '" ++ name ++ "'"))

/-- Adds a query parameter. -/
def ServiceRequest.withQuery (r : ServiceRequest) (key value : String) : ServiceRequest :=
  { r with query := r.query ++ [(key, value)] }

/-- Drops the headers of the inbound hop. -/
def ServiceRequest.stripHopHeaders (r : ServiceRequest) : ServiceRequest :=
  { r with headers := r.headers.filter fun (n, _) => n != "content-length" && n != "host" }

/-- The payload of an answer: the `data` of an object that has one, else the whole answer. -/
def responseData (body : Value) : Value :=
  match body with
  | .obj entries =>
    match entries.lookup "data" with
    | some d => d
    | none => body
  | _ => body

end Courier.Service
