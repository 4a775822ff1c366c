import Courier.Decimal.Shortest

/-!
# Writing a float as text

The digits come from `Binary.shortest`; a `Notation` decides how they are laid out: which
exponents are written positionally, whether an integral value keeps `.0`, and how the exponent is
marked. JSON numbers are written with `Notation.json`.
-/

namespace Courier.Decimal

/-- How the digits of a float are laid out. The exponent meant is that of the leading digit. -/
structure Notation where
  /-- the least exponent written positionally -/
  plainFrom : Int
  /-- the least exponent, above the positional ones, written with an exponent mark -/
  plainBelow : Int
  /-- an integral value written positionally ends in `.0` -/
  pointZero : Bool
  /-- a positive exponent carries a `+` -/
  expPlus : Bool

/-- JSON floats: positional from `1e-5` up to below `1e16`, integral values end in `.0`, and
exponents are written `1e+16`, `1e-7`. -/
def Notation.json : Notation := ⟨-5, 16, true, true⟩

/-- `n` zeros. -/
def zeros (n : Nat) : String := String.ofList (List.replicate n '0')

/-- Lays out digits `ds` (no leading or trailing zero) whose leading digit has exponent `e`. -/
def Notation.layout (nt : Notation) (ds : List Char) (e : Int) : String :=
  let n := ds.length
  if nt.plainFrom ≤ e ∧ e < nt.plainBelow then
    if e + 1 ≥ n then
      String.ofList ds ++ zeros (e + 1 - n).toNat ++ (if nt.pointZero then ".0" else "")
    else if e ≥ 0 then
      String.ofList (ds.take (e + 1).toNat) ++ "." ++ String.ofList (ds.drop (e + 1).toNat)
    else "0." ++ zeros (-e - 1).toNat ++ String.ofList ds
  else
    let mantissa := match ds with
      | [d] => String.singleton d
      | d :: rest => String.singleton d ++ "." ++ String.ofList rest
      | [] => "0"
    let sign := if e < 0 then "-" else if nt.expPlus then "+" else ""
    mantissa ++ "e" ++ sign ++ toString e.natAbs

/-- The text of a float under a notation. -/
def Notation.render (nt : Notation) (f : Float) : String :=
  if f.isNaN then "NaN"
  else
    let neg := f.toBits >>> 63 == 1
    let sign := if neg then "-" else ""
    if f.isInf then sign ++ "inf"
    else
      let x := Binary.ofBits f.toBits
      if x.m == 0 then sign ++ (if nt.pointZero then "0.0" else "0")
      else
        let d := x.shortest
        let ds := (Nat.toDigits 10 d.digits)
        sign ++ nt.layout ds (d.exp + ds.length - 1)

end Courier.Decimal
