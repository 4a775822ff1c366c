import Courier.Decimal.Binary

/-!
# Reading a float literal

The text of a float is an optional sign and then either a decimal number or one of the words
`inf`, `infinity`, `nan` in any case. A decimal number has digits with at most one point, at
least one digit in all, and an optional exponent: `e` or `E`, an optional sign, and at least one
digit. Nothing else may stand around it, blanks included. Its value is rounded once, to the
nearest binary64 value with ties to even, so that a number too large becomes an infinity and one
too small a zero of its sign.
-/

namespace Courier.Decimal

/-- The positive infinity. -/
def infinity : Float := Float.ofBits 0x7FF0000000000000

/-- The quiet NaN. -/
def notANumber : Float := Float.ofBits 0x7FF8000000000000

/-- The value of a list of decimal digits. -/
def digitsValue (ds : List Char) : Nat :=
  ds.foldl (fun acc c => acc * 10 + (c.toNat - 48)) 0

/-- Reads the exponent after its mark: an optional sign and at least one digit, nothing after. -/
def readExponentText (cs : List Char) : Option Int :=
  let (negative, ds) := match cs with
    | '+' :: rest => (false, rest)
    | '-' :: rest => (true, rest)
    | rest => (false, rest)
  if ds.isEmpty || !ds.all Char.isDigit then none
  else
    let e : Int := digitsValue ds
    some (if negative then -e else e)

/-- `n * 10^e` rounded to the nearest binary64 value. A value whose leading digit stands above
`10^310` is an infinity and one whose digits all stand below `10^-325` is zero, which keeps the
exact arithmetic small. -/
def scaledToFloat (n : Nat) (e : Int) : Float :=
  let top : Int := e + (Nat.toDigits 10 n).length
  if n == 0 || top < -325 then 0
  else if top > 310 then infinity
  else if e ≥ 0 then nearest (n * Nat.pow 10 e.toNat) 1
  else nearest n (Nat.pow 10 e.natAbs)

/-- Reads an unsigned decimal number: digits, an optional point with digits, an optional
exponent. -/
def readUnsignedDecimal (cs : List Char) : Option Float :=
  let whole := cs.takeWhile Char.isDigit
  let rest := cs.drop whole.length
  let (frac, rest) := match rest with
    | '.' :: more =>
      let f := more.takeWhile Char.isDigit
      (f, more.drop f.length)
    | _ => ([], rest)
  if whole.isEmpty && frac.isEmpty then none
  else
    let exponent : Option Int := match rest with
      | [] => some 0
      | c :: more => if c == 'e' || c == 'E' then readExponentText more else none
    exponent.map fun e => scaledToFloat (digitsValue (whole ++ frac)) (e - frac.length)

/-- Reads the text of a float, or `none` when it is not one. -/
def readFloat? (s : String) : Option Float :=
  let (negative, body) := match s.toList with
    | '+' :: rest => (false, rest)
    | '-' :: rest => (true, rest)
    | rest => (false, rest)
  let word := (String.ofList body).toLower
  let magnitude :=
    if word == "inf" || word == "infinity" then some infinity
    else if word == "nan" then some notANumber
    else readUnsignedDecimal body
  magnitude.map fun f => if negative then -f else f

end Courier.Decimal
