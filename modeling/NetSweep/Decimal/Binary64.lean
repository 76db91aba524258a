/-!
# Magnitudes of 64-bit floats

A finite float without its sign is a whole number of units, `significand * 2 ^ scale`; its bit
pattern is the number `scale + 1074` in front of 52 bits, read as one natural number.  Rounding,
products and quotients are exact arithmetic on ratios of natural numbers followed by one
rounding, to the nearest float and to the even one of two equally near.
-/

namespace NetSweep.Decimal

/-- The magnitude of a finite float. -/
structure Binary64 where
  /-- the bit pattern, sign bit clear -/
  bits : Nat
deriving DecidableEq, Repr

namespace Binary64

/-- The bit pattern of infinity: every finite magnitude is below it. -/
def infinity : Nat := 2047 * Nat.pow 2 52

/-- The greatest `l` with `2 ^ l ≤ num / den`. -/
def log2Ratio (num den : Nat) : Int :=
  let l : Int := (num.log2 : Int) - (den.log2 : Int)
  if den * Nat.pow 2 l.toNat ≤ num * Nat.pow 2 (-l).toNat then l else l - 1

/-- The quotient rounded to a whole number, half-way cases to the even one. -/
def roundDiv (num den : Nat) : Nat :=
  let q := num / den
  let twice := 2 * (num % den)
  if twice < den then q
  else if den < twice then q + 1
  else if q % 2 = 0 then q else q + 1

/-- The float nearest to a ratio, or nothing when that is infinity. -/
def ofRatio? (num den : Nat) : Option Binary64 :=
  if num = 0 then some ⟨0⟩
  else
    let scale : Int := max (-1074) (log2Ratio num den - 52)
    let significand := roundDiv (num * Nat.pow 2 (-scale).toNat) (den * Nat.pow 2 scale.toNat)
    let bits := (scale + 1074).toNat * Nat.pow 2 52 + significand
    if bits < infinity then some ⟨bits⟩ else none

def significand (x : Binary64) : Nat :=
  if x.bits < Nat.pow 2 52 then x.bits else Nat.pow 2 52 + x.bits % Nat.pow 2 52

def scale (x : Binary64) : Int :=
  if x.bits < Nat.pow 2 52 then -1074 else (x.bits / Nat.pow 2 52 : Nat) - 1075

def num (x : Binary64) : Nat := x.significand * Nat.pow 2 x.scale.toNat

def den (x : Binary64) : Nat := Nat.pow 2 (-x.scale).toNat

def mul? (x y : Binary64) : Option Binary64 := ofRatio? (x.num * y.num) (x.den * y.den)

def div? (x y : Binary64) : Option Binary64 := ofRatio? (x.num * y.den) (x.den * y.num)

def tenPow? (n : Nat) : Option Binary64 :=
  if n ≤ 308 then ofRatio? (Nat.pow 10 n) 1 else none

/-- The float nearest to `n * 10 ^ e`, or nothing when that is infinity.  A number of some digits
is bounded by powers of ten, so a scale that is too great or too small is not computed. -/
def ofDecimal? (n : Nat) (e : Int) : Option Binary64 :=
  let size : Int := (n.log2 * 30103 / 100000 : Nat) + e
  if n = 0 ∨ size < -400 then some ⟨0⟩
  else if 400 < size then none
  else ofRatio? (n * Nat.pow 10 e.toNat) (Nat.pow 10 (-e).toNat)

example : ofDecimal? 17976931348623158 292 = some ⟨infinity - 1⟩ := by decide +kernel
example : ofDecimal? 17976931348623159 292 = none := by decide +kernel
example : ofRatio? 1 1 = some ⟨0x3FF0000000000000⟩ := by decide
example : ofRatio? 1 10 = some ⟨0x3FB999999999999A⟩ := by decide
example : (ofRatio? 3 2).map significand = some (3 * Nat.pow 2 51) := by decide

end Binary64

end NetSweep.Decimal
