import NetSweep.Json.Basic
import NetSweep.Decimal.Shortest

/-!
# Numbers as text

Reading: a numeral without point and exponent whose value fits 64 bits (signed if negative) is a
whole number, except `-0`.  Any other numeral is a float: the leading digits that fit 64 bits
are the significand, digits of the whole part beyond them count only for their place, digits of
the fraction beyond them not at all, and the significand is then scaled by one power of ten.  A
numeral whose float would be infinite has no value.

Writing: a whole number in its decimal digits, a float in the fewest digits that read back, laid
out as `Layout.json` says.
-/

namespace NetSweep

structure Json.Numeral where
  negative : Bool
  /-- the digits before the point -/
  whole : List Nat
  /-- the digits after the point, at least one; empty when there is no point -/
  fraction : List Nat
  /-- the exponent's sign (true for minus) and its digits, at least one -/
  exponent : Option (Bool × List Nat)
deriving DecidableEq, Repr

namespace Decimal

structure Layout where
  /-- the least exponent of the first digit that is written without an exponent -/
  leastPlain : Int
  /-- the greatest such exponent -/
  greatestPlain : Int
  /-- what stands between the digits and the exponent's value, for exponents that are not
  negative -/
  positiveMark : String
  /-- the same for negative exponents -/
  negativeMark : String

/-- Floats of JSON are written plainly from `0.00001` up to sixteen digits before the point. -/
def Layout.json : Layout :=
  { leastPlain := -5, greatestPlain := 15, positiveMark := "e+", negativeMark := "e-" }

def digitChar (d : Nat) : Char := Char.ofNat ('0'.toNat + d)

def natChars (n : Nat) : List Char := if n = 0 then ['0'] else (digitsOf n).map digitChar

def natText (n : Nat) : String := String.ofList (natChars n)

/-- The digits written by a layout: with at least one digit on each side of the point if plain,
with a point only if there is more than one digit if not. -/
def Digits.write (layout : Layout) (d : Digits) : List Char :=
  let cs := d.digits.map digitChar
  if layout.leastPlain ≤ d.exponent ∧ d.exponent ≤ layout.greatestPlain then
    if d.exponent < 0 then
      ['0', '.'] ++ List.replicate (-d.exponent - 1).toNat '0' ++ cs
    else
      let before := d.exponent.toNat + 1
      let whole := cs.take before ++ List.replicate (before - cs.length) '0'
      let fraction := cs.drop before
      whole ++ ['.'] ++ if fraction.isEmpty then ['0'] else fraction
  else
    let mantissa :=
      match cs with
      | c :: c' :: rest => c :: '.' :: c' :: rest
      | _ => cs
    mantissa ++ (if d.exponent < 0 then layout.negativeMark else layout.positiveMark).toList
      ++ natChars d.exponent.natAbs

end Decimal

namespace Json

open Decimal

/-! ## Reading -/

/-- The digits that a significand below `2 ^ 64` can still take in, and those that are left from
the first one that does not fit. -/
def Numeral.absorb (significand : Nat) : List Nat → Nat × List Nat
  | [] => (significand, [])
  | d :: rest =>
    if significand * 10 + d < Nat.pow 2 64 then absorb (significand * 10 + d) rest
    else (significand, d :: rest)

/-- A magnitude divided by a power of ten, in steps of `10 ^ 308` where the power is beyond that;
the division stops when nothing is left. -/
def Numeral.scaleDown (x : Binary64) (n : Nat) : Option Binary64 :=
  if 308 < n then
    if x.bits = 0 then some x
    else (Binary64.tenPow? 308).bind fun p => (x.div? p).bind fun y => scaleDown y (n - 308)
  else (Binary64.tenPow? n).bind x.div?
termination_by n
decreasing_by omega

def Numeral.scale? (significand : Nat) (exponent : Int) : Option Binary64 :=
  (Binary64.ofRatio? significand 1).bind fun x =>
    if exponent < 0 then scaleDown x exponent.natAbs
    else if exponent ≤ 308 then (Binary64.tenPow? exponent.toNat).bind x.mul?
    else if significand = 0 then some x
    else none

def Numeral.signed (negative : Bool) (x : Binary64) : Number :=
  .float (UInt64.ofNat (if negative then Nat.pow 2 63 + x.bits else x.bits))

def Numeral.natOf (digits : List Nat) : Nat := digits.foldl (fun n d => n * 10 + d) 0

def Numeral.value? (n : Numeral) : Option Number :=
  let (head, rest) := absorb 0 n.whole
  if n.fraction.isEmpty ∧ n.exponent.isNone ∧ rest.isEmpty ∧ ¬ n.negative then some (.int head)
  else if n.fraction.isEmpty ∧ n.exponent.isNone ∧ rest.isEmpty ∧ 0 < head
      ∧ head ≤ Nat.pow 2 63 then
    some (.int (-(head : Int)))
  else
    let (significand, unread) := absorb head n.fraction
    let place : Int := (rest.length : Int) - ((n.fraction.length : Int) - unread.length)
    match n.exponent with
    | none => (scale? significand place).map (signed n.negative)
    | some (minus, digits) =>
      let e := natOf digits
      if e < Nat.pow 2 31 then
        (scale? significand (if minus then place - e else place + e)).map (signed n.negative)
      else if significand ≠ 0 ∧ ¬ minus then none
      else some (signed n.negative ⟨0⟩)

/-! ## Writing -/

def Number.chars : Number → List Char
  | .int n => if n < 0 then '-' :: natChars n.natAbs else natChars n.natAbs
  | .float bits =>
    let magnitude := bits.toNat % Nat.pow 2 63
    let sign := if Nat.pow 2 63 ≤ bits.toNat then ['-'] else []
    sign ++ if magnitude = 0 then ['0', '.', '0']
      else (Binary64.shortest ⟨magnitude⟩).write Layout.json

end Json

end NetSweep
