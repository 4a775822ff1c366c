import Courier.Json.Value
import Courier.Decimal.Notation

/-!
# Writing JSON text

The compact form: no blanks, object keys in the order of the (sorted) entry list, strings with
`"` and `\` escaped, the usual short escapes for backspace, form feed, newline, carriage return
and tab, and `\u00XX` with lower-case hex for the other control characters. Integers are written
in decimal, floats with `Notation.json`, and a float with no finite value as `null`.
-/

namespace Courier.Json

/-- The lower-case hex digit of a number below 16. -/
def hexDigit (n : Nat) : Char :=
  if n < 10 then Char.ofNat (48 + n) else Char.ofNat (87 + n)

/-- The escaped form of one character inside a JSON string. -/
def escapeChar (c : Char) : String :=
  match c with
  | '"' => "\\\""
  | '\\' => "\\\\"
  | '\n' => "\\n"
  | '\r' => "\\r"
  | '\t' => "\\t"
  | c =>
    if c.toNat == 8 then "\\b"
    else if c.toNat == 12 then "\\f"
    else if c.toNat < 32 then
      "\\u00" ++ String.singleton (hexDigit (c.toNat / 16)) ++ String.singleton (hexDigit (c.toNat % 16))
    else String.singleton c

/-- A string as a quoted JSON string. -/
def quote (s : String) : String :=
  "\"" ++ String.join (s.toList.map escapeChar) ++ "\""

/-- The text of a number: decimal for integers, `Notation.json` for floats. -/
def Number.render : Number → String
  | .int i => toString i
  | .float f => if f.isNaN || f.isInf then "null" else Decimal.Notation.json.render f

mutual

/-- The compact text of a value. -/
def Value.write : Value → String
  | .null => "null"
  | .bool b => if b then "true" else "false"
  | .num n => n.render
  | .str s => quote s
  | .arr items => "[" ++ writeItems items ++ "]"
  | .obj entries => "\x7b" ++ writeEntries entries ++ "\x7d"

/-- Array items separated by commas. -/
def writeItems : List Value → String
  | [] => ""
  | [v] => v.write
  | v :: rest => v.write ++ "," ++ writeItems rest

/-- Object entries separated by commas. -/
def writeEntries : List (String × Value) → String
  | [] => ""
  | [(k, v)] => quote k ++ ":" ++ v.write
  | (k, v) :: rest => quote k ++ ":" ++ v.write ++ "," ++ writeEntries rest

end

end Courier.Json
