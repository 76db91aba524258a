import NetSweep.Json.Numeral

/-!
# JSON values as text

The compact form: no blanks, members in the order the value holds them.  In strings a quote, a
backslash and the control characters below space are escaped and nothing else is.
-/

namespace NetSweep.Json

def hexChar (d : Nat) : Char :=
  if d < 10 then Char.ofNat ('0'.toNat + d) else Char.ofNat ('a'.toNat + (d - 10))

def escapeChar (c : Char) : List Char :=
  if c = '"' then ['\\', '"']
  else if c = '\\' then ['\\', '\\']
  else if c = '\x08' then ['\\', 'b']
  else if c = '\x0c' then ['\\', 'f']
  else if c = '\n' then ['\\', 'n']
  else if c = '\r' then ['\\', 'r']
  else if c = '\t' then ['\\', 't']
  else if c.toNat < 0x20 then ['\\', 'u', '0', '0', hexChar (c.toNat / 16), hexChar (c.toNat % 16)]
  else [c]

def quote (s : String) : List Char := '"' :: s.toList.flatMap escapeChar ++ ['"']

mutual

def chars : Json → List Char
  | .null => ['n', 'u', 'l', 'l']
  | .bool true => ['t', 'r', 'u', 'e']
  | .bool false => ['f', 'a', 'l', 's', 'e']
  | .number n => n.chars
  | .string s => quote s
  | .array [] => ['[', ']']
  | .array (v :: rest) => '[' :: chars v ++ itemChars rest
  | .object [] => ['{', '}']
  | .object ((k, v) :: rest) => '{' :: quote k ++ ':' :: chars v ++ memberChars rest

/-- The items after the first, and the end of the array. -/
def itemChars : List Json → List Char
  | [] => [']']
  | v :: rest => ',' :: chars v ++ itemChars rest

/-- The members after the first, and the end of the object. -/
def memberChars : List (String × Json) → List Char
  | [] => ['}']
  | (k, v) :: rest => ',' :: quote k ++ ':' :: chars v ++ memberChars rest

end

def render (v : Json) : String := String.ofList v.chars

end NetSweep.Json
