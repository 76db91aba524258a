import NetSweep.Json.Numeral

/-!
# Scalars of TOML

Numbers, truth values and dates are single words.  Whole numbers fit 64 signed bits and may be
written in base 16, 8 or 2; between two digits there may be an underscore.  A date is kept as its
text.
-/

namespace NetSweep.Toml

open Decimal

def digit? (base : Nat) (c : Char) : Option Nat :=
  let d? : Option Nat :=
    if '0' ≤ c ∧ c ≤ '9' then some (c.toNat - '0'.toNat)
    else if 'a' ≤ c ∧ c ≤ 'f' then some (c.toNat - 'a'.toNat + 10)
    else if 'A' ≤ c ∧ c ≤ 'F' then some (c.toNat - 'A'.toNat + 10)
    else none
  d?.bind fun d => if d < base then some d else none

/-- One digit or more, with underscores between digits. -/
def digits? (base : Nat) : List Char → Option (List Nat)
  | [] => none
  | [c] => (digit? base c).map ([·])
  | c :: '_' :: rest => (digit? base c).bind fun d => (digits? base rest).map (d :: ·)
  | c :: rest => (digit? base c).bind fun d => (digits? base rest).map (d :: ·)

def natOf (base : Nat) (digits : List Nat) : Nat := digits.foldl (fun n d => n * base + d) 0

/-- Decimal digits without a superfluous zero in front. -/
def decimal? (cs : List Char) : Option (List Nat) :=
  match cs with
  | '0' :: _ :: _ => none
  | cs => digits? 10 cs

/-- A whole number, if it fits 64 signed bits. -/
def int? (n : Int) : Option Json :=
  if -(Nat.pow 2 63 : Int) ≤ n ∧ n < (Nat.pow 2 63 : Int) then some (.int n) else none

def signed (word : List Char) : Bool × List Char :=
  match word with
  | '-' :: rest => (true, rest)
  | '+' :: rest => (false, rest)
  | rest => (false, rest)

def integer? (word : List Char) : Option Json :=
  match word with
  | '0' :: 'x' :: rest => (digits? 16 rest).bind fun ds => int? (natOf 16 ds)
  | '0' :: 'o' :: rest => (digits? 8 rest).bind fun ds => int? (natOf 8 ds)
  | '0' :: 'b' :: rest => (digits? 2 rest).bind fun ds => int? (natOf 2 ds)
  | word =>
    let (negative, rest) := signed word
    (decimal? rest).bind fun ds =>
      int? (if negative then -(natOf 10 ds : Int) else natOf 10 ds)

def infinityBits : UInt64 := 0x7FF0000000000000

def negativeInfinityBits : UInt64 := 0xFFF0000000000000

def nanBits : UInt64 := 0x7FF8000000000000

def exponent? (cs : List Char) : Option (Option (Bool × List Nat)) :=
  match cs with
  | [] => some none
  | c :: rest =>
    if c = 'e' ∨ c = 'E' then
      let (minus, rest) := signed rest
      (digits? 10 rest).map fun ds => some (minus, ds)
    else none

/-- A float in digits: a fraction, an exponent or both follow the whole part.  It is the float
nearest to the number that is written; a number beyond the greatest float is refused only if it is
positive. -/
def decimalFloat? (word : List Char) : Option Json :=
  let (negative, rest) := signed word
  let inExponent (c : Char) := c = 'e' || c = 'E'
  let whole := rest.takeWhile (fun c => c ≠ '.' && !inExponent c)
  let rest := rest.dropWhile (fun c => c ≠ '.' && !inExponent c)
  (decimal? whole).bind fun whole =>
    let parts : Option (List Nat × List Char) := match rest with
      | '.' :: rest =>
        (digits? 10 (rest.takeWhile (fun c => !inExponent c))).map fun fraction =>
          (fraction, rest.dropWhile (fun c => !inExponent c))
      | rest => if rest.isEmpty then none else some ([], rest)
    parts.bind fun (fraction, rest) =>
      (exponent? rest).bind fun exponent =>
        let e : Int := match exponent with
          | none => 0
          | some (minus, ds) => if minus then -(natOf 10 ds : Int) else natOf 10 ds
        match Binary64.ofDecimal? (natOf 10 (whole ++ fraction)) (e - fraction.length) with
        | some x => some (.number (Json.Numeral.signed negative x))
        | none => if negative then some (.number (.float negativeInfinityBits)) else none

def float? (word : List Char) : Option Json :=
  match String.ofList word with
  | "inf" | "+inf" => some (.number (.float infinityBits))
  | "-inf" => some (.number (.float negativeInfinityBits))
  | "nan" | "+nan" | "-nan" => some (.number (.float nanBits))
  | _ => decimalFloat? word

/-! ## Dates and times -/

/-- The number of exactly `count` decimal digits, and what follows them. -/
def field? (count : Nat) (cs : List Char) : Option (Nat × List Char) :=
  if (cs.take count).length = count then
    ((cs.take count).mapM (digit? 10)).map fun ds => (natOf 10 ds, cs.drop count)
  else none

def daysIn (year month : Nat) : Nat :=
  if month = 2 then
    if year % 4 = 0 ∧ (year % 100 ≠ 0 ∨ year % 400 = 0) then 29 else 28
  else if month ∈ [4, 6, 9, 11] then 30
  else 31

def afterDate? (cs : List Char) : Option (List Char) :=
  match field? 4 cs with
  | some (year, '-' :: cs) =>
    match field? 2 cs with
    | some (month, '-' :: cs) =>
      (field? 2 cs).bind fun (day, cs) =>
        if 1 ≤ month ∧ month ≤ 12 ∧ 1 ≤ day ∧ day ≤ daysIn year month then some cs else none
    | _ => none
  | _ => none

def afterTime? (cs : List Char) : Option (List Char) :=
  match field? 2 cs with
  | some (hour, ':' :: cs) =>
    match field? 2 cs with
    | some (minute, ':' :: cs) =>
      (field? 2 cs).bind fun (second, cs) =>
        if hour ≤ 23 ∧ minute ≤ 59 ∧ second ≤ 60 then
          match cs with
          | '.' :: rest =>
            if (rest.takeWhile Char.isDigit).isEmpty then none
            else some (rest.dropWhile Char.isDigit)
          | cs => some cs
        else none
    | _ => none
  | _ => none

/-- Whether a text is the distance of a time from universal time, or nothing. -/
def isOffset : List Char → Bool
  | [] => true
  | ['Z'] | ['z'] => true
  | sign :: rest =>
    if sign = '+' ∨ sign = '-' then
      match field? 2 rest with
      | some (hours, ':' :: rest) =>
        match field? 2 rest with
        | some (minutes, []) => hours ≤ 23 && minutes ≤ 59
        | _ => false
      | _ => false
    else false

/-- Whether a text is a date, a time, or both with a mark between them. -/
def isDateTime (cs : List Char) : Bool :=
  match afterDate? cs with
  | some [] => true
  | some (mark :: rest) =>
    if mark = 'T' ∨ mark = 't' ∨ mark = ' ' then
      match afterTime? rest with
      | some rest => isOffset rest
      | none => false
    else false
  | none => afterTime? cs = some []

/-- A date or time as a value: it must not be taken for a string. -/
def dateTime (cs : List Char) : Json := .object [("datetime", .string (String.ofList cs))]

/-! ## Words -/

def inWord (c : Char) : Bool := c.isAlphanum || ['+', '-', '_', '.', ':'].contains c

def word? (word : List Char) : Option Json :=
  match String.ofList word with
  | "true" => some (.bool true)
  | "false" => some (.bool false)
  | _ =>
    if isDateTime word then some (dateTime word)
    else
      match integer? word with
      | some v => some v
      | none => float? word

/-- The scalar that a text begins with.  A blank may stand between a date and a time. -/
def scalar? (cs : List Char) : Option (Json × List Char) :=
  let first := cs.takeWhile inWord
  let rest := cs.dropWhile inWord
  let joined := first ++ ' ' :: (rest.drop 1).takeWhile inWord
  if rest.head? = some ' ' ∧ afterDate? first = some [] ∧ isDateTime joined then
    some (dateTime joined, (rest.drop 1).dropWhile inWord)
  else (word? first).map fun v => (v, rest)

end NetSweep.Toml
