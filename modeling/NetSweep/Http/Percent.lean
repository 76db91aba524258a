import NetSweep.Text.Utf8

/-!
# Percent-encoding

A character that may not stand in some part of a URL is written as its UTF-8 bytes, each a
percent sign with two hexadecimal digits.  Which characters those are depends on the part.  The
percent sign itself is in none of the sets here, so encoded text can be encoded again without
change; only `encodeForm`, which is for query parameters, encodes it.
-/

namespace NetSweep.Http

open Text (utf8)

/-- The characters that are encoded in one part of a URL. -/
abbrev EncodeSet := Char → Bool

namespace EncodeSet

/-- Controls and everything beyond ASCII: encoded everywhere. -/
def control : EncodeSet := fun c => c.toNat < 0x20 || 0x7F ≤ c.toNat

def plus (more : List Char) : EncodeSet := fun c => control c || more.contains c

def fragment : EncodeSet := .plus [' ', '"', '<', '>', '\x60']

def path : EncodeSet := .plus [' ', '"', '<', '>', '\x60', '#', '?', '\x7b', '\x7d']

def userinfo : EncodeSet :=
  .plus [' ', '"', '<', '>', '\x60', '#', '?', '\x7b', '\x7d', '/', ':', ';', '=', '@', '[', '\\',
    ']', '^', '|']

def specialQuery : EncodeSet := .plus [' ', '"', '#', '<', '>', '\'']

def query : EncodeSet := .plus [' ', '"', '#', '<', '>']

/-- Encoded in an id that becomes one segment of a path: the path's set and the slash. -/
def segment : EncodeSet :=
  .plus [' ', '"', '#', '<', '>', '?', '\x60', '\x7b', '\x7d', '/']

end EncodeSet

def upperHex (d : Nat) : Char :=
  if d < 10 then Char.ofNat ('0'.toNat + d) else Char.ofNat ('A'.toNat + (d - 10))

def percentByte (b : UInt8) : List Char := ['%', upperHex (b.toNat / 16), upperHex (b.toNat % 16)]

def encodeChar (set : EncodeSet) (c : Char) : List Char :=
  if set c then (utf8 [c]).flatMap percentByte else [c]

def percentEncode (set : EncodeSet) (cs : List Char) : List Char := cs.flatMap (encodeChar set)

def hexDigit? (c : Char) : Option Nat :=
  if '0' ≤ c ∧ c ≤ '9' then some (c.toNat - '0'.toNat)
  else if 'a' ≤ c ∧ c ≤ 'f' then some (c.toNat - 'a'.toNat + 10)
  else if 'A' ≤ c ∧ c ≤ 'F' then some (c.toNat - 'A'.toNat + 10)
  else none

def hexByte? (high low : Char) : Option UInt8 :=
  (hexDigit? high).bind fun h => (hexDigit? low).map fun l => UInt8.ofNat (h * 16 + l)

/-- The bytes of a text, each percent sign with two digits read as the byte it writes.  A percent
sign without two digits stands for itself. -/
def percentDecode : List Char → List UInt8
  | '%' :: h :: l :: rest =>
    match hexByte? h l with
    | some b => b :: percentDecode rest
    | none => utf8 ['%'] ++ percentDecode (h :: l :: rest)
  | c :: rest => utf8 [c] ++ percentDecode rest
  | [] => []

/-! ## Query parameters -/

def keptInForm (c : Char) : Bool := c.isAlphanum || ['*', '-', '.', '_'].contains c

/-- The text of a parameter: a plus sign for each space, percent-encoding for the rest. -/
def encodeForm (cs : List Char) : List Char :=
  cs.flatMap fun c =>
    if c = ' ' then ['+'] else if keptInForm c then [c] else (utf8 [c]).flatMap percentByte

def encodePairs : List (String × String) → List Char
  | [] => []
  | [(name, value)] => encodeForm name.toList ++ '=' :: encodeForm value.toList
  | (name, value) :: rest =>
    encodeForm name.toList ++ '=' :: encodeForm value.toList ++ '&' :: encodePairs rest

@[simp] theorem percentEncode_nil (set : EncodeSet) : percentEncode set [] = [] := rfl

@[simp] theorem percentEncode_append (set : EncodeSet) (xs ys : List Char) :
    percentEncode set (xs ++ ys) = percentEncode set xs ++ percentEncode set ys := by
  simp [percentEncode]

end NetSweep.Http
