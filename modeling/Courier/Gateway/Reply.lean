import Courier.Fault

/-!
# HTTP replies of the gateway

A reply has a status, and a body that is empty, JSON or plain text. Answers of the API are JSON
envelopes `{success, data?, error?, message}`. A fault becomes a reply by its kind: 404 for
not found, 400 for bad input, 503 for an unavailable service or open breaker, 500 otherwise; a
service's own error object is passed on with the service's status. The text of a fault that is
not safe to show is replaced by a generic message.
-/

namespace Courier.Gateway

open Json

/-- The body of an HTTP reply. -/
inductive Body where
  | empty
  | json (v : Value)
  | text (s : String)

/-- An HTTP reply. -/
structure Reply where
  status : Nat
  body : Body := .empty

/-- The content type a body is sent with. -/
def Body.contentType : Body → Option String
  | .empty => none
  | .json _ => some "application/json"
  | .text _ => some "text/plain; charset=utf-8"

/-- The envelope of a successful answer. -/
def successEnvelope (data : Value) (message : String) : Value :=
  .object [("success", .bool true), ("data", data), ("message", .str message)]

/-- The envelope of a failed answer. -/
def errorEnvelope (error : Option Value) (message : String) : Value :=
  .object ([("success", .bool false), ("message", .str message)] ++
    match error with
    | some e => [("error", e)]
    | none => [])

/-- The message shown in place of a fault's text when that text is not safe to show. -/
def genericMessage : String := "An unexpected error occurred. Please try again later."

/-- The HTTP status of a kind of fault. -/
def kindStatus : FaultKind → Nat
  | .notFound => 404
  | .validationError | .malformedMessage => 400
  | .serviceUnavailable | .circuitOpen => 503
  | .internal => 500

/-- Whether a number is a valid HTTP status code. -/
def isStatusCode (n : Nat) : Bool := 100 ≤ n && n ≤ 999

/-- The reply for a fault. -/
def faultReply (f : Fault) : Reply :=
  match f with
  | .downstream _ status body@(.obj _) =>
    { status := if isStatusCode status then status else 502, body := .json body }
  | _ =>
    let message := if f.isOperational then f.message else genericMessage
    { status := kindStatus f.kind,
      body := .json (errorEnvelope (some (.object [("kind", .str f.kind.name)])) message) }

end Courier.Gateway
