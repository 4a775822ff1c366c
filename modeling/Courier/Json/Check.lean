import Courier.Json.ReadError
import Courier.Json.Shape
import Courier.Time.Instant

/-!
# Reading a JSON value against a shape

`Shape.readValue` reads a value already in memory as data of a shape. The rules are those of
reading text, without places or paths: object entries are visited in key order, an array read
as a record may not hold more items than the record has fields, and one of several names may
also be written as a one-entry object whose value is `null`.
-/

namespace Courier.Json

/-- Fails with a data mismatch. -/
def misfit {α : Type} (p : Problem) : Except ReadError α := .error { problem := p }

/-- Reads a value as data of a shape; `fuel` bounds the nesting of shapes. -/
def checkValue : Nat → Shape → Value → Except ReadError Value
  | 0, _, _ => misfit (.malformed .recursionLimit)
  | _ + 1, .any, v => pure v
  | _ + 1, .text, .str s => pure (.str s)
  | _ + 1, .text, v => misfit (.invalidType (Found.ofValue v) "a string")
  | _ + 1, .flag, .bool b => pure (.bool b)
  | _ + 1, .flag, v => misfit (.invalidType (Found.ofValue v) "a boolean")
  | _ + 1, .natural max name, .num (.int i) =>
    if i < 0 then misfit (.invalidValue (.signed i) name)
    else if i.toNat ≤ max then pure (.nat i.toNat)
    else misfit (.invalidValue (.unsigned i.toNat) name)
  | _ + 1, .natural _ name, v => misfit (.invalidType (Found.ofValue v) name)
  | _ + 1, .optional _, .null => pure .null
  | fuel + 1, .optional s, v => checkValue fuel s v
  | fuel + 1, .list s, .arr xs => Value.arr <$> xs.mapM (checkValue fuel s)
  | _ + 1, .list _, v => misfit (.invalidType (Found.ofValue v) "a sequence")
  | fuel + 1, .dict s, .obj kvs =>
    Value.obj <$> kvs.mapM fun (k, v) => do pure (k, ← checkValue fuel s v)
  | _ + 1, .dict _, v => misfit (.invalidType (Found.ofValue v) "a map")
  | fuel + 1, .record _ fields, .obj kvs => do
    let seen ← kvs.filterMapM fun (k, v) =>
      match fields.find? (fun f => f.1 == k) with
      | some (_, s, _) => do pure (some (k, ← checkValue fuel s v))
      | none => pure none
    match completeFields fields seen with
    | .ok v => pure v
    | .error missing => misfit (.missingField missing)
  | fuel + 1, .record name fields, .arr xs => do
    let indexed := fields.zipIdx
    let kvs ← indexed.mapM fun ((k, s, hasDefault), i) =>
      match xs[i]? with
      | some v => do pure (k, ← checkValue fuel s v)
      | none =>
        if hasDefault then pure (k, s.empty)
        else misfit (.invalidLength i
          ("struct " ++ name ++ " with " ++ toString fields.length ++ " elements"))
    if xs.length > fields.length then
      misfit (.invalidLength xs.length "fewer elements in array")
    else pure (Value.object kvs)
  | _ + 1, .record name _, v => misfit (.invalidType (Found.ofValue v) ("struct " ++ name))
  | _ + 1, .choice vs, .str s =>
    if vs.contains s then pure (.str s) else misfit (.unknownVariant s vs)
  | _ + 1, .choice vs, .obj [(k, v)] =>
    if !vs.contains k then misfit (.unknownVariant k vs)
    else match v with
      | .null => pure (.str k)
      | v => misfit (.invalidType (Found.ofValue v) "unit")
  | _ + 1, .choice _, .obj _ => misfit (.invalidValue .map "map with a single key")
  | _ + 1, .choice _, v => misfit (.invalidType (Found.ofValue v) "string or map")
  | _ + 1, .instant, .str s =>
    match Time.Instant.parse s with
    | .ok t => pure (.str t.render)
    | .error f => misfit (.custom f.message)
  | _ + 1, .instant, v =>
    misfit (.invalidType (Found.ofValue v) "an RFC 3339 formatted date and time string")

/-- Reads a value as data of a shape. -/
def Shape.readValue (shape : Shape) (v : Value) : Except ReadError Value :=
  checkValue (shape.depth + 1) shape v

end Courier.Json
