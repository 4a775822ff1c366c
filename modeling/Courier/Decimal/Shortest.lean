import Courier.Decimal.Binary

/-!
# The fewest decimal digits that identify a binary64 value

The reals that round to a finite value `x` form an interval reaching halfway to each neighbour,
ends included when the significand is even. `shortest` looks, for one digit, then two, up to
seventeen, at the two neighbours of `x` on the decimal grid of that many digits, and takes the
first that lies in the interval; when both do, the nearer one, a tie going to the even digits.
All comparisons are exact products of naturals.
-/

namespace Courier.Decimal

/-- `digits * 10^exp`. -/
structure Dec where
  digits : Nat
  exp : Int

/-- Compares `a * 10^i` with `n * 2^j`, exactly. -/
def cmpScaled (a : Nat) (i : Int) (n : Nat) (j : Int) : Ordering :=
  compare (a * Nat.pow 10 i.toNat * Nat.pow 2 (-j).toNat)
    (n * Nat.pow 2 j.toNat * Nat.pow 10 (-i).toNat)

/-- Whether `d` lies among the reals that round to `x` (to nearest, ties to even). -/
def Binary.readsBack (x : Binary) (d : Dec) : Bool :=
  let lo := if x.narrowBelow then 4 * x.m - 1 else 4 * x.m - 2
  let hi := 4 * x.m + 2
  let incl := x.m % 2 == 0
  let cl := cmpScaled d.digits d.exp lo (x.q - 2)
  let ch := cmpScaled d.digits d.exp hi (x.q - 2)
  (cl == .gt || (incl && cl == .eq)) && (ch == .lt || (incl && ch == .eq))

/-- Whether `x < 10^k`. -/
def Binary.below (x : Binary) (k : Int) : Bool := cmpScaled 1 k x.m x.q == .gt

/-- The least `k` with `x < 10^k`, searched upward from a point just below the estimate that
the bit length gives. -/
def Binary.scale (x : Binary) : Int :=
  let bits : Int := (Nat.log2 x.m : Int) + x.q
  let start := Int.fdiv (bits * 30103) 100000 - 1
  let rec go (k : Int) : Nat → Int
    | 0 => k
    | fuel + 1 => if x.below k then k else go (k + 1) fuel
  go start 8

/-- `x / 10^g` as a quotient, remainder and divisor. -/
def Binary.onGrid (x : Binary) (g : Int) : Nat × Nat × Nat :=
  let num := x.m * Nat.pow 2 x.q.toNat * Nat.pow 10 (-g).toNat
  let den := Nat.pow 2 (-x.q).toNat * Nat.pow 10 g.toNat
  (num / den, num % den, den)

/-- The neighbour of `x` on the grid `10^g` that reads back, the nearer of two, if any. -/
def Binary.pick (x : Binary) (g : Int) : Option Dec :=
  let (lo, r, den) := x.onGrid g
  let down : Dec := ⟨lo, g⟩
  let up : Dec := ⟨lo + 1, g⟩
  match x.readsBack down, x.readsBack up with
  | true, true =>
    if 2 * r < den then some down
    else if 2 * r > den then some up
    else if lo % 2 == 0 then some down else some up
  | true, false => some down
  | false, true => some up
  | false, false => none

/-- Moves trailing zeros of the digits into the exponent. -/
def Dec.strip (d : Dec) : Dec :=
  let rec go (digits : Nat) (exp : Int) : Nat → Dec
    | 0 => ⟨digits, exp⟩
    | fuel + 1 =>
      if digits != 0 && digits % 10 == 0 then go (digits / 10) (exp + 1) fuel else ⟨digits, exp⟩
  go d.digits d.exp 40

/-- The exact decimal value of `x`, the last resort of the search. -/
def Binary.exact (x : Binary) : Dec :=
  if x.q ≥ 0 then ⟨x.m * Nat.pow 2 x.q.toNat, 0⟩
  else ⟨x.m * Nat.pow 5 (-x.q).toNat, x.q⟩

/-- The fewest digits that read back as `x` (`x.m > 0`), trailing zeros stripped. -/
def Binary.shortest (x : Binary) : Dec :=
  let k := x.scale
  let found := (List.range 17).findSome? fun i => x.pick (k - (i + 1 : Nat))
  (found.getD x.exact).strip

end Courier.Decimal
