import NetSweep.Decimal.Binary64

/-!
# The fewest digits that read back

`shortest` writes a positive float with as few digits as any decimal that still rounds to it, and
of the decimals with that many digits takes the nearest.  It tries the grids of one, two, … digits
in turn: if a grid has a point in the interval of reals that round to the float, then one of the
float's two neighbours on that grid lies in it, so only those two are tested.
-/

namespace NetSweep.Decimal

/-- A positive decimal `0.d₁d₂… * 10 ^ (exponent + 1)`: its first digit counts `10 ^ exponent`. -/
structure Digits where
  /-- the digits, the first of them not zero -/
  digits : List Nat
  /-- the power of ten that the first digit counts -/
  exponent : Int
deriving DecidableEq, Repr

/-- The decimal digits of a number, most significant first; none for zero. -/
def digitsOf (n : Nat) : List Nat :=
  if n = 0 then [] else digitsOf (n / 10) ++ [n % 10]
termination_by n
decreasing_by omega

/-- The reals that round to a float, as bounds over one denominator; the bounds themselves
round to it exactly when its significand is even. -/
structure Interval where
  low : Nat
  value : Nat
  high : Nat
  den : Nat
  closed : Bool
deriving Repr

/-- The interval of a positive float.  Below a power of two the next float is half as far away,
unless the two are subnormal. -/
def Binary64.interval (x : Binary64) : Interval :=
  let unit := Nat.pow 2 x.scale.toNat
  let below := if x.significand = Nat.pow 2 52 ∧ -1074 < x.scale then 1 else 2
  { low := (4 * x.significand - below) * unit
    value := 4 * x.significand * unit
    high := (4 * x.significand + 2) * unit
    den := 4 * x.den
    closed := x.significand % 2 = 0 }

def Interval.covers (i : Interval) (n : Nat) (e : Int) : Bool :=
  let scaled := n * Nat.pow 10 e.toNat * i.den
  let unit := Nat.pow 10 (-e).toNat
  if i.closed then i.low * unit ≤ scaled ∧ scaled ≤ i.high * unit
  else i.low * unit < scaled ∧ scaled < i.high * unit

/-- The greatest `k` with `10 ^ k ≤ num / den`, found by stepping up from a guess below it. -/
def log10Ratio (num den : Nat) : Int :=
  let guess : Int := Int.fdiv (Binary64.log2Ratio num den * 30102) 100000 - 2
  let rec step : Nat → Int → Int
    | 0, k => k
    | fuel + 1, k =>
      if den * Nat.pow 10 (k + 1).toNat ≤ num * Nat.pow 10 (-(k + 1)).toNat then step fuel (k + 1)
      else k
  step 8 guess

/-- The neighbour of a value on the grid of step `10 ^ e` that lies in its interval, the nearer
one if both do and the even one if both are equally near. -/
def Interval.onGrid? (i : Interval) (e : Int) : Option Nat :=
  let num := i.value * Nat.pow 10 (-e).toNat
  let den := i.den * Nat.pow 10 e.toNat
  let n := num / den
  match i.covers n e, i.covers (n + 1) e with
  | true, true => some (Binary64.roundDiv num den)
  | true, false => some n
  | false, true => some (n + 1)
  | false, false => none

/-- The first grid point found with `count`, `count + 1`, … digits, the first digit counting
`10 ^ top`; with seventeen digits there always is one. -/
def Interval.search (i : Interval) (top : Int) : (fuel count : Nat) → Nat × Int
  | 0, count => (i.value / i.den, top - count + 1)
  | fuel + 1, count =>
    let e := top - count + 1
    match i.onGrid? e with
    | some n => (n, e)
    | none => i.search top fuel (count + 1)

/-- A positive float in the fewest digits that read back. -/
def Binary64.shortest (x : Binary64) : Digits :=
  let i := x.interval
  let (n, e) := i.search (log10Ratio i.value i.den) 17 1
  let all := digitsOf n
  let kept := (all.reverse.dropWhile (· = 0)).reverse
  { digits := kept, exponent := e + all.length - 1 }

end NetSweep.Decimal
