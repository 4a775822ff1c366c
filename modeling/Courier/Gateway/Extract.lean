import Courier.Json.Read
import Courier.Net.Url

/-!
# Reading HTTP requests

What the gateway takes from a request before its handlers run.

* Header names are case-insensitive; when a name comes more than once, the first value counts. A
  value is only read as text when every byte is visible ASCII, a space or a tab.
* A JSON body needs a `Content-Type` that parses as a media type `application/json` or
  `application/*+json` (any case, parameters allowed). Without one the body is refused before it
  is read. A body that is not JSON is a syntax rejection, and JSON of the wrong form a data
  rejection; both texts name the path to the fault and its place in the body.
* Path parameters are percent-decoded; a parameter that does not decode to UTF-8 is refused.
-/

namespace Courier.Gateway

open Courier.Json

/-- An HTTP request as the gateway receives it. -/
structure HttpCall where
  method : String
  /-- the path, possibly followed by `?` and a query -/
  target : String
  /-- header names lower-cased, in the order they came -/
  headers : List (String × String) := []
  body : String := ""

/-- The first value of a header. -/
def HttpCall.header? (c : HttpCall) (name : String) : Option String :=
  (c.headers.find? (·.1 == name)).map (·.2)

/-- Whether a byte may stand in a header value read as text. -/
def visibleByte (b : UInt8) : Bool := (32 ≤ b && b < 127) || b == 9

/-- A header value as text, when all of it is visible ASCII. -/
def headerText? (v : String) : Option String :=
  if v.toUTF8.toList.all visibleByte then some v else none

/-! ### Media types -/

/-- A media type: its type, subtype and structured-syntax suffix, lower-cased. -/
structure MediaType where
  type : String
  subtype : String
  suffix : Option String

/-- Whether a byte may stand in a media type token. -/
def isTokenByte (c : Char) : Bool :=
  c.toNat < 128 && (c.isAlphanum || "!#$%&'*+-.^_\x60|~".contains c)

/-- Whether a character may stand in a quoted parameter value. -/
def isQuotedChar (c : Char) : Bool := c.toNat > 31 && c.toNat != 127

/-- Reads the parameters after a `;`: names of token characters, `=`, and a token or a quoted
string, separated by `;`; spaces may open a parameter and follow a quoted value. -/
def readParams : Nat → List Char → Bool
  | 0, _ => false
  | _, [] => true
  | fuel + 1, ' ' :: rest => readParams fuel rest
  | fuel + 1, cs =>
    let name := cs.takeWhile isTokenByte
    match cs.drop name.length with
    | '=' :: rest =>
      if name.isEmpty then false
      else
        match rest with
        | '"' :: inner =>
          let body := inner.takeWhile fun c => c != '"' && isQuotedChar c
          match inner.drop body.length with
          | '"' :: after =>
            if body.isEmpty then false
            else
              let after := after.dropWhile (· == ' ')
              match after with
              | [] => true
              | ';' :: more => readParams fuel more
              | _ => false
          | _ => false
        | _ =>
          let value := rest.takeWhile isTokenByte
          match rest.drop value.length with
          | [] => true
          | ';' :: more => if value.isEmpty then false else readParams fuel more
          | _ => false
    | _ => false

/-- Reads a media type: a token, `/`, a subtype of token characters whose last `+` starts the
suffix, then optional parameters. -/
def parseMediaType (s : String) : Option MediaType :=
  let cs := s.toList
  let type := cs.takeWhile isTokenByte
  match cs.drop type.length with
  | '/' :: rest =>
    if type.isEmpty then none
    else
      let sub := rest.takeWhile isTokenByte
      let tail := rest.drop sub.length
      let ok := match tail with
        | [] => true
        | ';' :: params => !sub.isEmpty && readParams (params.length + 1) params
        | _ => false
      if !ok then none
      else
        let lower := fun (l : List Char) => (String.ofList l).toLower
        match sub.reverse.idxOf? '+' with
        | some i =>
          let cut := sub.length - 1 - i
          if cut == 0 then some ⟨lower type, lower sub, none⟩
          else some ⟨lower type, lower (sub.take cut), some (lower (sub.drop (cut + 1)))⟩
        | none => some ⟨lower type, lower sub, none⟩
  | _ => none

/-- Whether a request declares a JSON body. -/
def HttpCall.declaresJson (c : HttpCall) : Bool :=
  match (c.header? "content-type").bind headerText? |>.bind parseMediaType with
  | some t => t.type == "application" && (t.subtype == "json" || t.suffix == some "json")
  | none => false

/-! ### Bodies -/

/-- Why a JSON body was refused. -/
inductive BodyRejection where
  | missingContentType
  | unparsable (e : ReadError)
  | data (e : ReadError)

/-- The text of a body rejection. -/
def BodyRejection.text : BodyRejection → String
  | .missingContentType => "Expected request with \x60Content-Type: application/json\x60"
  | .unparsable e => "Failed to parse the request body as JSON: " ++ e.messageWithPath
  | .data e => "Failed to deserialize the JSON body into the target type: " ++ e.messageWithPath

/-- Reads the body of a request as JSON data of a shape. -/
def HttpCall.jsonBody (c : HttpCall) (shape : Shape) : Except BodyRejection Value :=
  if !c.declaresJson then .error .missingContentType
  else
    match shape.readText c.body with
    | .ok v => .ok v
    | .error e => .error (if e.isSyntax then .unparsable e else .data e)

/-! ### Paths -/

/-- The path of a request, without its query. -/
def HttpCall.path (c : HttpCall) : String :=
  String.ofList (c.target.toList.takeWhile (· != '?'))

/-- A path parameter percent-decoded, or `none` when the bytes are not UTF-8. -/
def decodeParam (raw : String) : Option String :=
  String.fromUTF8? (ByteArray.mk (Net.percentDecodeBytes raw.toUTF8.toList).toArray)

/-- The text of the rejection of a parameter that is not UTF-8. -/
def invalidParamText (key : String) : String :=
  "Invalid URL: Invalid UTF-8 in \x60" ++ key ++ "\x60"

end Courier.Gateway
