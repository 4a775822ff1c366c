import Courier.Json.Write

/-!
# Data as templates see it

How a value is written into the output, when a value counts as true, when two values are the
same, and how text is escaped for HTML.
-/

namespace Courier.Json

mutual

/-- How a value is written into the output: `null` as nothing, an array as its items between
brackets, an object as `[object]`. -/
def Value.show : Value → String
  | .null => ""
  | .bool b => if b then "true" else "false"
  | .num n => n.render
  | .str s => s
  | .arr items => "[" ++ showItems items ++ "]"
  | .obj _ => "[object]"

/-- Array items written and separated by `, `. -/
def showItems : List Value → String
  | [] => ""
  | [v] => v.show
  | v :: rest => v.show ++ ", " ++ showItems rest

end

/-- The smallest positive normal binary64 number. -/
def minNormal : Float := 2.2250738585072014e-308

/-- Whether a value counts as true: `false`, `null`, zero, empty text, empty arrays and empty
objects do not. With `includeZero`, every number but NaN counts. -/
def Value.truthy (includeZero : Bool) : Value → Bool
  | .bool b => b
  | .num (.int i) => includeZero || i != 0
  | .num (.float f) =>
    if includeZero then !f.isNaN else (f.isFinite && f.abs ≥ minNormal)
  | .null => false
  | .str s => !s.isEmpty
  | .arr items => !items.isEmpty
  | .obj entries => !entries.isEmpty

/-- Whether two numbers are the same: integers with integers, floats with floats. -/
def Number.same : Number → Number → Bool
  | .int a, .int b => a == b
  | .float a, .float b => a == b
  | _, _ => false

mutual

/-- Whether two values are the same. -/
def Value.same : Value → Value → Bool
  | .null, .null => true
  | .bool a, .bool b => a == b
  | .num a, .num b => a.same b
  | .str a, .str b => a == b
  | .arr a, .arr b => sameItems a b
  | .obj a, .obj b => sameEntries a b
  | _, _ => false

/-- Whether two item lists are the same. -/
def sameItems : List Value → List Value → Bool
  | [], [] => true
  | a :: as, b :: bs => a.same b && sameItems as bs
  | _, _ => false

/-- Whether two sorted entry lists are the same. -/
def sameEntries : List (String × Value) → List (String × Value) → Bool
  | [], [] => true
  | (k, a) :: as, (k', b) :: bs => k == k' && a.same b && sameEntries as bs
  | _, _ => false

end

end Courier.Json

namespace Courier.Template

open Courier.Json

/-- Escapes the characters of HTML: `<`, `>`, `"`, `&`, `'`, the backtick and `=`. -/
def htmlEscapeChar (c : Char) : String :=
  match c with
  | '<' => "&lt;"
  | '>' => "&gt;"
  | '"' => "&quot;"
  | '&' => "&amp;"
  | '\'' => "&#x27;"
  | '=' => "&#x3D;"
  | c => if c.toNat == 96 then "&#x60;" else String.singleton c

/-- Text escaped for HTML. -/
def htmlEscape (s : String) : String := String.join (s.toList.map htmlEscapeChar)

/-- An index into an array as written in a path: digits, with an optional leading `+`, below
`2^64`. -/
def parseIndex (s : String) : Option Nat :=
  let cs := match s.toList with
    | '+' :: rest => rest
    | cs => cs
  if cs.isEmpty || !cs.all Char.isDigit then none
  else
    let n := cs.foldl (fun acc c => acc * 10 + (c.toNat - 48)) 0
    if n < Nat.pow 2 64 then some n else none

/-- An object with the entries of `base` (none if it is not an object) and then `extra`. -/
def mergeObject (base : Value) (extra : List (String × Value)) : Value :=
  let entries := match base with
    | .obj es => es
    | _ => []
  .obj (extra.foldl (fun acc (k, v) => setEntry k v acc) entries)

end Courier.Template
