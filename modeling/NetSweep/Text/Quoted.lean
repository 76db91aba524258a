import NetSweep.Text.Hidden

/-!
# Quoted text for readers

Log records and error messages quote a text so that a reader can see every character of it: the
usual escapes for quote, backslash and line ends, and the code point in hexadecimal for
characters that have no glyph of their own.
-/

namespace NetSweep.Text

def hexDigits (n : Nat) : List Char :=
  if n = 0 then [] else hexDigits (n / 16) ++ [Nat.digitChar (n % 16)]
termination_by n
decreasing_by omega

def visibleChar (c : Char) : List Char :=
  if c = '\x00' then ['\\', '0']
  else if c = '\t' then ['\\', 't']
  else if c = '\n' then ['\\', 'n']
  else if c = '\r' then ['\\', 'r']
  else if c = '"' then ['\\', '"']
  else if c = '\\' then ['\\', '\\']
  else if isHidden c then ['\\', 'u', '\x7b'] ++ hexDigits c.toNat ++ ['\x7d']
  else [c]

def quoted (s : String) : String :=
  String.ofList ('"' :: s.toList.flatMap visibleChar ++ ['"'])

def quotedList (items : List String) : String := "[" ++ ", ".intercalate (items.map quoted) ++ "]"

def quotedOption : Option String → String
  | none => "None"
  | some s => "Some(" ++ quoted s ++ ")"

end NetSweep.Text
