import NetSweep.Http.Name
import NetSweep.Http.Percent
import NetSweep.Json.Numeral
import NetSweep.Text.Quoted
import NetSweep.Text.Split

/-!
# Hosts

The host of a URL is a name or an address.  Names are brought into lower case and ASCII; a name
whose last label is a number is an IPv4 address, however it is spelt, and an address in brackets
is an IPv6 address.  The text of an address is its shortest usual form.
-/

namespace NetSweep.Http

open Text (splitAt)

namespace Host

/-! ## IPv4 -/

def digitsOf? (base : Nat) (cs : List Char) : Option (List Nat) :=
  cs.mapM fun c => (hexDigit? c).bind fun d => if d < base then some d else none

def valueOf (base : Nat) (digits : List Nat) : Nat := digits.foldl (fun n d => n * base + d) 0

/-- A part of an address: hexadecimal after `0x`, octal after another leading zero. -/
def ipv4Part? (cs : List Char) : Option Nat :=
  match cs with
  | [] => none
  | '0' :: 'x' :: rest | '0' :: 'X' :: rest => (digitsOf? 16 rest).map (valueOf 16)
  | '0' :: c :: rest => (digitsOf? 8 (c :: rest)).map (valueOf 8)
  | cs => (digitsOf? 10 cs).map (valueOf 10)

/-- The labels of a name, without the empty one after a final dot. -/
def labels (name : List Char) : List (List Char) :=
  let parts := splitAt (· = '.') name
  if 1 < parts.length ∧ parts.getLast? = some [] then parts.dropLast else parts

/-- Whether a name has to be an IPv4 address. -/
def endsInNumber (name : List Char) : Bool :=
  match (labels name).getLast? with
  | some last => (!last.isEmpty && last.all Char.isDigit) || (ipv4Part? last).isSome
  | none => false

/-- The 32 bits of an address: all parts but the last are one byte each, the last fills what is
left. -/
def ipv4Of? (name : List Char) : Option Nat :=
  let parts := labels name
  if 4 < parts.length then none
  else
    (parts.mapM ipv4Part?).bind fun numbers =>
      match numbers.reverse with
      | [] => none
      | last :: front =>
        if last < Nat.pow 256 (4 - front.length) ∧ front.all (· < 256) then
          some (valueOf 256 front.reverse * Nat.pow 256 (4 - front.length) + last)
        else none

def ipv4Text (address : Nat) : String :=
  ".".intercalate ([address / 16777216, address / 65536 % 256, address / 256 % 256,
    address % 256].map Decimal.natText)

/-! ## IPv6 -/

def ipv6Piece? (cs : List Char) : Option Nat :=
  if cs.isEmpty ∨ 4 < cs.length then none else (digitsOf? 16 cs).map (valueOf 16)

/-- One number of a dotted address inside an IPv6 address: no leading zero, below 256. -/
def plainByte? (cs : List Char) : Option Nat :=
  if cs.isEmpty ∨ (cs.head? = some '0' ∧ 1 < cs.length) ∨ 3 < cs.length then none
  else (digitsOf? 10 cs).bind fun ds => if valueOf 10 ds < 256 then some (valueOf 10 ds) else none

def dottedPieces? (cs : List Char) : Option (List Nat) :=
  match (splitAt (· = '.') cs).mapM plainByte? with
  | some [a, b, c, d] => some [a * 256 + b, c * 256 + d]
  | _ => none

/-- The pieces between colons; the last part may be a dotted address if `dotted` holds. -/
def pieces? (dotted : Bool) : List (List Char) → Option (List Nat)
  | [] => some []
  | [last] =>
    match ipv6Piece? last with
    | some n => some [n]
    | none => if dotted then dottedPieces? last else none
  | part :: rest => (ipv6Piece? part).bind fun n => (pieces? dotted rest).map (n :: ·)

def piecesOf? (dotted : Bool) (cs : List Char) : Option (List Nat) :=
  if cs.isEmpty then some [] else pieces? dotted (splitAt (· = ':') cs)

def cutAtPair : List Char → Option (List Char × List Char)
  | ':' :: ':' :: rest => some ([], rest)
  | c :: rest => (cutAtPair rest).map fun (before, after) => (c :: before, after)
  | [] => none

/-- The eight pieces of an address; a pair of colons stands for one zero or more. -/
def ipv6Of? (cs : List Char) : Option (List Nat) :=
  match cutAtPair cs with
  | none => (piecesOf? true cs).bind fun ps => if ps.length = 8 then some ps else none
  | some (before, after) =>
    (piecesOf? false before).bind fun left =>
      (piecesOf? true after).bind fun right =>
        if left.length + right.length ≤ 7 then
          some (left ++ List.replicate (8 - left.length - right.length) 0 ++ right)
        else none

def zeroRun (pieces : List Nat) : Nat := (pieces.takeWhile (· = 0)).length

/-- The place and length of the longest run of zeros, the first of several. -/
def longestRun (pieces : List Nat) : Nat × Nat :=
  (List.range pieces.length).foldl (fun best i =>
    let run := zeroRun (pieces.drop i)
    if best.2 < run then (i, run) else best) (0, 0)

def pieceText (n : Nat) : String := if n = 0 then "0" else String.ofList (Text.hexDigits n)

def piecesText (pieces : List Nat) : String := ":".intercalate (pieces.map pieceText)

/-- An address with its longest run of several zeros left out. -/
def ipv6Text (pieces : List Nat) : String :=
  let (start, length) := longestRun pieces
  if length < 2 then piecesText pieces
  else piecesText (pieces.take start) ++ "::" ++ piecesText (pieces.drop (start + length))

/-! ## Names -/

/-- The host of a URL whose scheme is special. -/
def parse? (cs : List Char) : Option String :=
  match cs with
  | '[' :: rest =>
    if rest.getLast? = some ']' then
      (ipv6Of? rest.dropLast).map fun pieces => "[" ++ ipv6Text pieces ++ "]"
    else none
  | cs =>
    (Text.text? (percentDecode cs)).bind fun decoded =>
      (Name.toAscii? decoded.toList).bind fun name =>
        if name.isEmpty then none
        else if endsInNumber name then (ipv4Of? name).map ipv4Text
        else some (String.ofList name)

end Host

end NetSweep.Http
