/-!
# Binary64 values as exact numbers

A finite binary64 value is `m * 2^q` for naturals `m` and integers `q`. This module decodes the
bits of a float into that form, and goes the other way: it rounds an exact positive ratio of
naturals to the nearest binary64 value, a tie going to the even significand, the way every
correctly rounding reader does. Reading decimal text and converting integers to floats both rest
on that one rounding.
-/

namespace Courier.Decimal

/-- A finite non-negative binary64 value, `m * 2^q`. -/
structure Binary where
  m : Nat
  q : Int
  /-- the gap to the value below is half the gap to the value above -/
  narrowBelow : Bool

/-- The bits of a finite value. NaN and the infinities are no such value: test for them first. -/
def Binary.ofBits (b : UInt64) : Binary :=
  let e := ((b >>> 52) &&& 0x7FF).toNat
  let f := (b &&& 0xFFFFFFFFFFFFF).toNat
  if e == 0 then ⟨f, -1074, false⟩ else ⟨Nat.pow 2 52 + f, (e : Int) - 1075, f == 0 && e > 1⟩

/-- `num * 2^sh / den` as a quotient and remainder, for a shift of either sign. -/
def scaledDivMod (num den : Nat) (sh : Int) : Nat × Nat × Nat :=
  let n := num * Nat.pow 2 sh.toNat
  let d := den * Nat.pow 2 (-sh).toNat
  (n / d, n % d, d)

/-- Rounds a quotient with remainder `r` of divisor `d` to nearest, a tie going to even. -/
def roundHalfEven (q r d : Nat) : Nat :=
  if 2 * r > d then q + 1 else if 2 * r < d then q else if q % 2 == 0 then q else q + 1

/-- The shift that brings `num / den` into `[2^52, 2^53)`, found from the bit lengths and then
corrected by exact comparisons. -/
def normalShift (num den : Nat) : Int :=
  let est : Int := 52 - ((Nat.log2 num : Int) - (Nat.log2 den : Int))
  let fits (sh : Int) : Bool :=
    let (qt, _, _) := scaledDivMod num den sh
    Nat.pow 2 52 ≤ qt && qt < Nat.pow 2 53
  if fits est then est else if fits (est + 1) then est + 1 else est - 1

/-- The bits of the binary64 value nearest to `num / den` (`den > 0`), ties to even; the
infinity when the value is too large. -/
def nearestBits (num den : Nat) : UInt64 :=
  if num == 0 || den == 0 then 0 else
  let sh := normalShift num den
  -- the exponent field of a normal value m * 2^(-sh) with m in [2^52, 2^53)
  let field : Int := 1075 - sh
  if field < 1 then
    -- subnormal: the significand is counted in units of 2^-1074
    let (qt, r, d) := scaledDivMod num den 1074
    let m := roundHalfEven qt r d
    -- rounding up may reach the least normal value, whose bits follow on
    m.toUInt64
  else
    let (qt, r, d) := scaledDivMod num den sh
    let m := roundHalfEven qt r d
    let (m, field) := if m == Nat.pow 2 53 then (Nat.pow 2 52, field + 1) else (m, field)
    if field ≥ 2047 then 0x7FF0000000000000
    else (field.toNat.toUInt64 <<< 52) ||| (m - Nat.pow 2 52).toUInt64

/-- The binary64 value nearest to `num / den`. -/
def nearest (num den : Nat) : Float := Float.ofBits (nearestBits num den)

/-- A natural number rounded to the nearest binary64 value. -/
def natToFloat (n : Nat) : Float := nearest n 1

/-- `10^k` rounded to the nearest binary64 value. -/
def pow10 (k : Nat) : Float := nearest (Nat.pow 10 k) 1

end Courier.Decimal
