import Courier.Json.Value

/-!
# Shapes of JSON data

A `Shape` says what a piece of JSON must look like to be read as a value of the pipeline:
any value, a string, a truth value, a bounded natural number, an optional or repeated item, a
map from strings, a record with named fields, one of several names, or a date and time. Reading
against a shape yields a value in normal form: records as objects holding every field, absent
options as `null`, dates and times in their UTC text.
-/

namespace Courier.Json

/-- The form a piece of JSON data must have. -/
inductive Shape where
  /-- any JSON value -/
  | any
  /-- a string -/
  | text
  /-- `true` or `false` -/
  | flag
  /-- a natural number up to `max`, called `name` in diagnostics -/
  | natural (max : Nat) (name : String)
  /-- `null`, or an item of the inner shape -/
  | optional (inner : Shape)
  /-- an array of items -/
  | list (item : Shape)
  /-- an object with items of a shape under any keys -/
  | dict (item : Shape)
  /-- an object with named fields (or an array of them in order); each field has a shape and
  says whether it may be left out, taking its shape's empty value -/
  | record (name : String) (fields : List (String × Shape × Bool))
  /-- one of several names -/
  | choice (variants : List String)
  /-- an RFC 3339 date and time -/
  | instant

/-- The value a field with a default takes when it is left out. -/
def Shape.empty : Shape → Value
  | .text => .str ""
  | .flag => .bool false
  | .natural .. => .nat 0
  | .list _ => .arr []
  | .dict _ => .obj []
  | _ => .null

mutual

/-- How deeply shapes nest in a shape, at least 1. -/
def Shape.depth : Shape → Nat
  | .optional s => s.depth + 1
  | .list s => s.depth + 1
  | .dict s => s.depth + 1
  | .record _ fs => fieldsDepth fs + 1
  | _ => 1

/-- The greatest depth of the shapes of some fields. -/
def fieldsDepth : List (String × Shape × Bool) → Nat
  | [] => 0
  | (_, s, _) :: rest => max s.depth (fieldsDepth rest)

end

/-- The `u8` shape: a natural number below 256. -/
def Shape.byte : Shape := .natural 255 "u8"

/-- The `u16` shape: a natural number below 65536. -/
def Shape.word16 : Shape := .natural 65535 "u16"

/-- The fields of a record once read: the read ones, and for the others their empty value if
they may be left out, `null` if they are optional, or else the name of the first missing one. -/
def completeFields (fields : List (String × Shape × Bool)) (seen : List (String × Value)) :
    Except String Value := do
  let kvs ← fields.mapM fun (name, s, hasDefault) =>
    match seen.lookup name with
    | some v => pure (name, v)
    | none =>
      if hasDefault then pure (name, s.empty)
      else match s with
        | .optional _ => pure (name, Value.null)
        | _ => throw name
  pure (Value.object kvs)

end Courier.Json
