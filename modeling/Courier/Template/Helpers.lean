import Courier.Template.Scope
import Courier.Decimal.Literal

/-!
# Helpers that compute a value

`lookup`, the comparisons `eq`, `ne`, `gt`, `gte`, `lt`, `lte`, the connectives `and`, `or`,
`not`, and `len` give a value, so they may stand inside `( … )`. The other helpers (`if`,
`unless`, `each`, `with`, `raw`, `log`) render blocks and are in `Courier.Template.Render`.

* `eq` and `ne` compare values exactly: an integer and a float are never equal.
* The ordering comparisons compare numbers as binary64 values, texts by their bytes, booleans
  with `false` first, and a number with a text that reads as a float. Any other pair is
  unordered, and then every ordering comparison is false.
* All but `lookup` name their parameters `x` and `y`, and a fault names the parameter missing.
-/

namespace Courier.Json

/-- A number as a binary64 value: an integer is rounded to the nearest one. -/
def Number.toFloat : Number → Float
  | .int i => if 0 ≤ i then Decimal.natToFloat i.toNat else -Decimal.natToFloat i.natAbs
  | .float f => f

/-- The order of two floats, none when one of them is NaN. -/
def floatOrder (a b : Float) : Option Ordering :=
  if a < b then some .lt else if a == b then some .eq else if b < a then some .gt else none

/-- The order of two booleans, `false` first. -/
def boolOrder : Bool → Bool → Ordering
  | false, true => .lt
  | true, false => .gt
  | _, _ => .eq

/-- How two values are ordered, if they are. -/
def Value.order? : Value → Value → Option Ordering
  | .num a, .num b => floatOrder a.toFloat b.toFloat
  | .str a, .str b => some (compare a b)
  | .bool a, .bool b => some (boolOrder a b)
  | .num a, .str b => (Decimal.readFloat? b).bind (floatOrder a.toFloat)
  | .str a, .num b => ((Decimal.readFloat? a).bind (floatOrder b.toFloat)).map Ordering.swap
  | _, _ => none

/-- A value as an unsigned 64-bit integer. -/
def Value.asWord? : Value → Option Nat
  | .num (.int i) => if 0 ≤ i then some i.toNat else none
  | _ => none

/-- The size of a value: items of an array, entries of an object, bytes of text, else 0. -/
def Value.size : Value → Nat
  | .arr items => items.length
  | .obj entries => entries.length
  | .str s => s.utf8ByteSize
  | _ => 0

end Courier.Json

namespace Courier.Template

open Courier.Json

/-- The names of the helpers every template can call. -/
def builtinHelpers : List String :=
  ["if", "unless", "each", "with", "lookup", "raw", "log", "eq", "ne", "gt", "gte", "lt", "lte",
    "and", "or", "not", "len"]

/-- The parameter at `i`, which the helper needs; a missing one is named by its place. -/
def need (helper : String) (params : List Scoped) (i : Nat) : Except RenderFault Scoped :=
  match params[i]? with
  | some p => .ok p
  | none => .error (.paramMissing helper i)

/-- The parameter at `i`, named `param`, which the helper needs. -/
def needNamed (helper : String) (params : List Scoped) (i : Nat) (param : String) :
    Except RenderFault Value :=
  match params[i]? with
  | some p => .ok p.value
  | none => .error (.paramNamedMissing helper param)

/-- A helper of the parameters `x` and `y`. -/
def pairHelper (helper : String) (f : Value → Value → Value) (params : List Scoped) :
    Except RenderFault Scoped := do
  let x ← needNamed helper params 0 "x"
  let y ← needNamed helper params 1 "y"
  .ok { value := f x y }

/-- An ordering comparison: whether the order of `x` and `y` is one that `holds` accepts. -/
def orderHelper (helper : String) (holds : Ordering → Bool) (params : List Scoped) :
    Except RenderFault Scoped :=
  pairHelper helper (fun x y => .bool ((x.order? y).any holds)) params

/-- A helper of the one parameter `x`. -/
def unaryHelper (helper : String) (f : Value → Value) (params : List Scoped) :
    Except RenderFault Scoped := do
  let x ← needNamed helper params 0 "x"
  .ok { value := f x }

/-- Runs a helper that computes a value, or `none` if `name` is not one. -/
def valueHelper (name : String) (params : List Scoped) : Option (Except RenderFault Scoped) :=
  match name with
  | "lookup" => some do
    let c ← need "lookup" params 0
    let i ← need "lookup" params 1
    let found := match c.value, i.value with
      | .arr items, key => key.asWord? >>= fun n => items[n]?
      | .obj entries, .str k => entries.lookup k
      | _, _ => none
    .ok (match found with
      | some v => { value := v }
      | none => .absent)
  | "eq" => some (pairHelper "eq" (fun x y => .bool (x.same y)) params)
  | "ne" => some (pairHelper "ne" (fun x y => .bool !(x.same y)) params)
  | "gt" => some (orderHelper "gt" (· == .gt) params)
  | "gte" => some (orderHelper "gte" (· != .lt) params)
  | "lt" => some (orderHelper "lt" (· == .lt) params)
  | "lte" => some (orderHelper "lte" (· != .gt) params)
  | "and" => some (pairHelper "and" (fun x y => .bool (x.truthy false && y.truthy false)) params)
  | "or" => some (pairHelper "or" (fun x y => .bool (x.truthy false || y.truthy false)) params)
  | "not" => some (unaryHelper "not" (fun x => .bool !(x.truthy false)) params)
  | "len" => some (unaryHelper "len" (fun x => .nat x.size) params)
  | _ => none

end Courier.Template
