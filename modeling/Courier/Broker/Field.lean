import Courier.Decimal.Binary

/-!
# AMQP field values

Queue arguments and message headers are tables of typed AMQP values. The integer types are kept
as exact integers within their range, `float` values as binary32 and `double` values as binary64
floats.
-/

namespace Courier.Broker

/-- A typed value of an AMQP field table. -/
inductive FieldValue where
  | boolean (b : Bool)
  | shortShortInt (i : Int)
  | shortShortUInt (n : Nat)
  | shortInt (i : Int)
  | shortUInt (n : Nat)
  | longInt (i : Int)
  | longUInt (n : Nat)
  | longLongInt (i : Int)
  | float (f : Float32)
  | double (f : Float)
  | longString (s : String)
  | shortString (s : String)
  | void

/-- A field table: named values in the order they were put in. -/
abbrev FieldTable := List (String × FieldValue)

/-- The AMQP name of the type of a value. -/
def FieldValue.typeName : FieldValue → String
  | .boolean _ => "Boolean"
  | .shortShortInt _ => "ShortShortInt"
  | .shortShortUInt _ => "ShortShortUInt"
  | .shortInt _ => "ShortInt"
  | .shortUInt _ => "ShortUInt"
  | .longInt _ => "LongInt"
  | .longUInt _ => "LongUInt"
  | .longLongInt _ => "LongLongInt"
  | .float _ => "Float"
  | .double _ => "Double"
  | .longString _ => "LongString"
  | .shortString _ => "ShortString"
  | .void => "Void"

/-- The least and greatest values of a signed 64-bit word. -/
def int64Min : Int := -9223372036854775808
def int64Max : Int := 9223372036854775807

/-- A float converted to a signed 64-bit integer: the fraction is cut off toward zero, values
beyond the range take its nearest end, and NaN becomes 0. -/
def Float.toInt64Saturating (f : Float) : Int :=
  if f.isNaN then 0
  else
    let negative := f.toBits >>> 63 == 1
    if f.isInf then (if negative then int64Min else int64Max)
    else
      let x := Decimal.Binary.ofBits f.toBits
      let whole : Int :=
        if x.q ≥ 0 then Int.ofNat (x.m * Nat.pow 2 x.q.toNat)
        else Int.ofNat (x.m / Nat.pow 2 (-x.q).toNat)
      let signed := if negative then -whole else whole
      max int64Min (min int64Max signed)

/-- The integer a numeric field value stands for, converting floats toward zero; other values
stand for none. -/
def FieldValue.asInt? : FieldValue → Option Int
  | .shortShortInt i | .shortInt i | .longInt i | .longLongInt i => some i
  | .shortShortUInt n | .shortUInt n | .longUInt n => some n
  | .float f => some (Float.toInt64Saturating f.toFloat)
  | .double f => some (Float.toInt64Saturating f)
  | _ => none

end Courier.Broker
