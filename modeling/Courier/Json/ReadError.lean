import Courier.Json.Value
import Courier.Decimal.Notation
import Courier.Text.Escaped

/-!
# Why a JSON text or value could not be read

A reading failure is a syntax fault of the text, or a mismatch between the data and the shape it
is read as. It may carry the place in the text where it was found (line from 1, column in bytes
from the start of the line) and the path from the top of the document to the part being read.
-/

namespace Courier.Json

/-- A place in a text: its line, counted from 1, and the bytes before it on that line. -/
structure TextPos where
  line : Nat
  column : Nat

/-- One step of the path to a part of a document. -/
inductive Segment where
  | key (k : String)
  | index (i : Nat)
  | variant (v : String)
  | unknown

/-- Syntax faults of a JSON text. -/
inductive SyntaxFault where
  | eofList
  | eofObject
  | eofString
  | eofValue
  | expectedColon
  | expectedListCommaOrEnd
  | expectedObjectCommaOrEnd
  | expectedIdent
  | expectedValue
  | invalidEscape
  | invalidNumber
  | numberOutOfRange
  | controlCharacter
  | keyMustBeString
  | loneSurrogate
  | trailingComma
  | trailingCharacters
  | unexpectedEndOfHexEscape
  | recursionLimit

/-- The text of a syntax fault. -/
def SyntaxFault.message : SyntaxFault → String
  | .eofList => "EOF while parsing a list"
  | .eofObject => "EOF while parsing an object"
  | .eofString => "EOF while parsing a string"
  | .eofValue => "EOF while parsing a value"
  | .expectedColon => "expected `:`"
  | .expectedListCommaOrEnd => "expected `,` or `]`"
  | .expectedObjectCommaOrEnd => "expected `,` or `\x7d`"
  | .expectedIdent => "expected ident"
  | .expectedValue => "expected value"
  | .invalidEscape => "invalid escape"
  | .invalidNumber => "invalid number"
  | .numberOutOfRange => "number out of range"
  | .controlCharacter => "control character (\\u0000-\\u001F) found while parsing a string"
  | .keyMustBeString => "key must be a string"
  | .loneSurrogate => "lone leading surrogate in hex escape"
  | .trailingComma => "trailing comma"
  | .trailingCharacters => "trailing characters"
  | .unexpectedEndOfHexEscape => "unexpected end of hex escape"
  | .recursionLimit => "recursion limit exceeded"

/-- Whether the fault is that the text ended too soon. -/
def SyntaxFault.isEof : SyntaxFault → Bool
  | .eofList | .eofObject | .eofString | .eofValue => true
  | _ => false

/-- What was found where something else was expected. -/
inductive Found where
  | null
  | bool (b : Bool)
  | unsigned (n : Nat)
  | signed (i : Int)
  | float (f : Float)
  | str (s : String)
  | seq
  | map

/-- How a found item is described. -/
def Found.describe : Found → String
  | .null => "null"
  | .bool b => "boolean `" ++ (if b then "true" else "false") ++ "`"
  | .unsigned n => "integer `" ++ toString n ++ "`"
  | .signed i => "integer `" ++ toString i ++ "`"
  | .float f => "floating point `" ++ Decimal.Notation.json.render f ++ "`"
  | .str s => "string " ++ Text.quoteForDiagnostic s
  | .seq => "sequence"
  | .map => "map"

/-- What a value is, as a found item. -/
def Found.ofValue : Value → Found
  | .null => .null
  | .bool b => .bool b
  | .num (.int i) => if i < 0 then .signed i else .unsigned i.toNat
  | .num (.float f) => .float f
  | .str s => .str s
  | .arr _ => .seq
  | .obj _ => .map

/-- Names written between backticks and joined as a list of alternatives. -/
def oneOf (names : List String) : String :=
  let tick (n : String) := "`" ++ n ++ "`"
  match names with
  | [] => "nothing"
  | [a] => tick a
  | [a, b] => tick a ++ " or " ++ tick b
  | _ => "one of " ++ ", ".intercalate (names.map tick)

/-- Why a reading failed. -/
inductive Problem where
  | malformed (s : SyntaxFault)
  | invalidType (found : Found) (expected : String)
  | invalidValue (found : Found) (expected : String)
  | invalidLength (n : Nat) (expected : String)
  | unknownVariant (name : String) (variants : List String)
  | missingField (name : String)
  | duplicateField (name : String)
  | custom (text : String)

/-- The text of a problem. -/
def Problem.message : Problem → String
  | .malformed s => s.message
  | .invalidType f e => "invalid type: " ++ f.describe ++ ", expected " ++ e
  | .invalidValue f e => "invalid value: " ++ f.describe ++ ", expected " ++ e
  | .invalidLength n e => "invalid length " ++ toString n ++ ", expected " ++ e
  | .unknownVariant v [] => "unknown variant `" ++ v ++ "`, there are no variants"
  | .unknownVariant v vs => "unknown variant `" ++ v ++ "`, expected " ++ oneOf vs
  | .missingField n => "missing field `" ++ n ++ "`"
  | .duplicateField n => "duplicate field `" ++ n ++ "`"
  | .custom t => t

/-- A reading failure: the problem, where in the text, and on which path. -/
structure ReadError where
  problem : Problem
  pos : Option TextPos := none
  path : Option (List Segment) := none

instance : Inhabited ReadError := ⟨{ problem := .custom "" }⟩

/-- The text of a failure, with its place when it has one. -/
def ReadError.message (e : ReadError) : String :=
  match e.pos with
  | some p => e.problem.message ++ " at line " ++ toString p.line ++ " column " ++ toString p.column
  | none => e.problem.message

/-- Whether the failure lies in the syntax of the text rather than in its data. -/
def ReadError.isSyntax (e : ReadError) : Bool :=
  match e.problem with
  | .malformed _ => true
  | _ => false

/-- A path as text: keys and variants joined by dots, indices in brackets. -/
def pathText (segs : List Segment) : String :=
  let rec go (first : Bool) : List Segment → String
    | [] => ""
    | .index i :: rest => "[" ++ toString i ++ "]" ++ go false rest
    | s :: rest =>
      let t := match s with
        | .key k => k
        | .variant v => v
        | _ => "?"
      (if first then "" else ".") ++ t ++ go false rest
  go true segs

/-- The failure text prefixed with its path, unless the path holds only unknown steps. -/
def ReadError.messageWithPath (e : ReadError) : String :=
  let segs := e.path.getD []
  let known := segs.any fun
    | .unknown => false
    | _ => true
  if known then pathText segs ++ ": " ++ e.message else e.message

end Courier.Json
