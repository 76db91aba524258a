import NetSweep.Json.Numeral

/-!
# JSON from text

The grammar is that of RFC 8259, with three limits on what has a value: arrays and objects nest
at most 127 deep, a number's float is finite, and surrogate escapes come in pairs.  A reader who
asks for a record says so by a `Shape`; members outside the record are only checked for grammar,
and the limits do not apply to them.

Members keep their order and repetitions, so that records can refuse a repeated field;
`Json.normalize` settles both for everything else.
-/

namespace NetSweep.Json

inductive Shape where
  /-- everything -/
  | whole
  /-- an array's items, each of a shape -/
  | items (item : Shape)
  /-- the named members, or the items at their places, each of a shape; members outside them are
  read only if `others` holds -/
  | record (fields : List (String × Shape)) (others : Bool)
deriving Repr

def Shape.member (name : String) : Shape → Option Shape
  | .record fields others =>
    match Assoc.find? name fields with
    | some s => some s
    | none => if others then some .whole else none
  | _ => some .whole

def Shape.item (index : Nat) : Shape → Shape
  | .items s => s
  | .record fields _ => (fields[index]?.map Prod.snd).getD .whole
  | .whole => .whole

/-! ## Tokens -/

def skipBlanks : List Char → List Char
  | c :: rest => if c = ' ' ∨ c = '\n' ∨ c = '\t' ∨ c = '\r' then skipBlanks rest else c :: rest
  | [] => []

def digits : List Char → List Nat × List Char
  | c :: rest =>
    if c.isDigit then
      let (ds, after) := digits rest
      ((c.toNat - '0'.toNat) :: ds, after)
    else ([], c :: rest)
  | [] => ([], [])

def digits1? (cs : List Char) : Option (List Nat × List Char) :=
  match digits cs with
  | ([], _) => none
  | found => some found

/-- The digits before the point: a zero, or digits that do not begin with one. -/
def wholeDigits? : List Char → Option (List Nat × List Char)
  | '0' :: rest => some ([0], rest)
  | cs => digits1? cs

def fractionDigits? : List Char → Option (List Nat × List Char)
  | '.' :: rest => digits1? rest
  | cs => some ([], cs)

def exponent? : List Char → Option (Option (Bool × List Nat) × List Char)
  | c :: rest =>
    if c = 'e' ∨ c = 'E' then
      match rest with
      | '+' :: rest => (digits1? rest).map (fun (ds, after) => (some (false, ds), after))
      | '-' :: rest => (digits1? rest).map (fun (ds, after) => (some (true, ds), after))
      | _ => (digits1? rest).map (fun (ds, after) => (some (false, ds), after))
    else some (none, c :: rest)
  | [] => some (none, [])

def magnitude? (negative : Bool) (cs : List Char) : Option (Numeral × List Char) :=
  (wholeDigits? cs).bind fun (whole, cs) =>
    (fractionDigits? cs).bind fun (fraction, cs) =>
      (exponent? cs).map fun (exponent, cs) => ({ negative, whole, fraction, exponent }, cs)

def numeral? : List Char → Option (Numeral × List Char)
  | '-' :: rest => magnitude? true rest
  | cs => magnitude? false cs

/-- A piece of a quoted string: a character, or the UTF-16 unit of a numeric escape. -/
inductive Piece where
  | char (c : Char)
  | unit (n : Nat)
deriving DecidableEq, Repr

def hexValue? (c : Char) : Option Nat :=
  if c.isDigit then some (c.toNat - '0'.toNat)
  else if 'a' ≤ c ∧ c ≤ 'f' then some (c.toNat - 'a'.toNat + 10)
  else if 'A' ≤ c ∧ c ≤ 'F' then some (c.toNat - 'A'.toNat + 10)
  else none

def hex4? (a b c d : Char) : Option Nat :=
  (hexValue? a).bind fun a => (hexValue? b).bind fun b => (hexValue? c).bind fun c =>
    (hexValue? d).map fun d => ((a * 16 + b) * 16 + c) * 16 + d

def unescape? : Char → Option Char
  | '"' => some '"'
  | '\\' => some '\\'
  | '/' => some '/'
  | 'b' => some '\x08'
  | 'f' => some '\x0c'
  | 'n' => some '\n'
  | 'r' => some '\r'
  | 't' => some '\t'
  | _ => none

/-- The pieces of a string up to its closing quote, and what follows that. -/
def pieces? : List Char → Option (List Piece × List Char)
  | [] => none
  | '"' :: rest => some ([], rest)
  | '\\' :: 'u' :: a :: b :: c :: d :: rest =>
    (hex4? a b c d).bind fun n =>
      (pieces? rest).map fun (ps, after) => (.unit n :: ps, after)
  | '\\' :: c :: rest =>
    (unescape? c).bind fun e => (pieces? rest).map fun (ps, after) => (.char e :: ps, after)
  | c :: rest =>
    if c.toNat < 0x20 ∨ c = '\\' then none
    else (pieces? rest).map fun (ps, after) => (.char c :: ps, after)

/-- The characters that pieces stand for; a surrogate without its other half has none. -/
def join? : List Piece → Option (List Char)
  | [] => some []
  | .char c :: rest => (join? rest).map (c :: ·)
  | .unit high :: .unit low :: rest =>
    if 0xD800 ≤ high ∧ high < 0xDC00 then
      if 0xDC00 ≤ low ∧ low < 0xE000 then
        (join? rest).map (Char.ofNat (0x10000 + (high - 0xD800) * 0x400 + (low - 0xDC00)) :: ·)
      else none
    else if 0xDC00 ≤ high ∧ high < 0xE000 then none
    else (join? (.unit low :: rest)).map (Char.ofNat high :: ·)
  | .unit n :: rest =>
    if 0xD800 ≤ n ∧ n < 0xE000 then none else (join? rest).map (Char.ofNat n :: ·)

/-! ## Values -/

/-- What a reading makes of numbers, of strings and of members that are not read. -/
structure Reading where
  number : Numeral → Option Number
  string : List Piece → Option String
  skip : List Char → Option (List Char)

/-- The items of an array from its first one on; `room` bounds their number. -/
def items? (item : Nat → List Char → Option (Json × List Char)) :
    (room index : Nat) → List Char → Option (List Json × List Char)
  | 0, _, _ => none
  | room + 1, index, cs =>
    (item index cs).bind fun (v, cs) =>
      match skipBlanks cs with
      | ',' :: cs => (items? item room (index + 1) cs).map fun (vs, cs) => (v :: vs, cs)
      | ']' :: cs => some ([v], cs)
      | _ => none

def key? (string : List Piece → Option String) (cs : List Char) : Option (String × List Char) :=
  match skipBlanks cs with
  | '"' :: cs =>
    (pieces? cs).bind fun (ps, cs) =>
      (string ps).bind fun key =>
        match skipBlanks cs with
        | ':' :: cs => some (key, cs)
        | _ => none
  | _ => none

def members? (string : List Piece → Option String)
    (member : String → List Char → Option (List (String × Json) × List Char)) :
    (room : Nat) → List Char → Option (List (String × Json) × List Char)
  | 0, _ => none
  | room + 1, cs =>
    (key? string cs).bind fun (key, cs) =>
      (member key cs).bind fun (found, cs) =>
        match skipBlanks cs with
        | ',' :: cs =>
          (members? string member room cs).map fun (ms, cs) => (found ++ ms, cs)
        | '}' :: cs => some (found, cs)
        | _ => none

/-- The value that a text begins with; `room` bounds the items of an array or object and `depth`
their nesting. -/
def value? (reading : Reading) (room : Nat) :
    (depth : Nat) → Shape → List Char → Option (Json × List Char)
  | depth, shape, cs =>
    match skipBlanks cs with
    | 'n' :: 'u' :: 'l' :: 'l' :: cs => some (.null, cs)
    | 't' :: 'r' :: 'u' :: 'e' :: cs => some (.bool true, cs)
    | 'f' :: 'a' :: 'l' :: 's' :: 'e' :: cs => some (.bool false, cs)
    | '"' :: cs =>
      (pieces? cs).bind fun (ps, cs) => (reading.string ps).map fun s => (.string s, cs)
    | '[' :: cs =>
      match depth with
      | 0 => none
      | depth + 1 =>
        match skipBlanks cs with
        | ']' :: cs => some (.array [], cs)
        | cs =>
          (items? (fun i => value? reading room depth (shape.item i)) room 0 cs).map
            fun (vs, cs) => (.array vs, cs)
    | '{' :: cs =>
      match depth with
      | 0 => none
      | depth + 1 =>
        match skipBlanks cs with
        | '}' :: cs => some (.object [], cs)
        | cs =>
          (members? reading.string (fun key cs =>
            match shape.member key with
            | some s => (value? reading room depth s cs).map fun (v, cs) => ([(key, v)], cs)
            | none => (reading.skip cs).map fun cs => ([], cs)) room cs).map
            fun (ms, cs) => (.object ms, cs)
    | cs => (numeral? cs).bind fun (n, cs) => (reading.number n).map fun n => (.number n, cs)

/-- The reading that checks grammar alone. -/
def Reading.lax : Reading where
  number _ := some (.int 0)
  string _ := some ""
  skip _ := none

def Reading.strict (room : Nat) : Reading where
  number n := n.value?
  string ps := (join? ps).map String.ofList
  skip cs := (value? .lax room room .whole cs).map Prod.snd

def maxDepth : Nat := 127

/-- The value of a text, read as a shape, with the members of its objects as they are written. -/
def parseAs? (shape : Shape) (text : String) : Option Json :=
  let cs := text.toList
  let room := cs.length
  match value? (.strict room) room maxDepth shape cs with
  | some (v, rest) => if (skipBlanks rest).isEmpty then some v else none
  | none => none

def parse? (text : String) : Option Json := (parseAs? .whole text).map normalize

end NetSweep.Json
