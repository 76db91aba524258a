import NetSweep.Json.Parser
import NetSweep.Toml.Scalar
import NetSweep.Toml.Table

/-!
# TOML from text

A document is a sequence of lines: a key with its value, the header of a table, or nothing but
blanks and a comment.  Values may go over several lines, inline tables may not.  A document is
read as the JSON object that it describes; one that names a key twice, or a table after it is
complete, has no reading.
-/

namespace NetSweep.Toml

/-! ## Blanks -/

def isBlank (c : Char) : Bool := c = ' ' || c = '\t'

def skipBlanks (cs : List Char) : List Char := cs.dropWhile isBlank

def isPlain (c : Char) : Bool := c = '\t' || (0x20 ≤ c.toNat && c.toNat ≠ 0x7F)

/-- What follows the end of a line, which the end of the text is too. -/
def newline? : List Char → Option (List Char)
  | [] => some []
  | '\n' :: rest => some rest
  | '\r' :: '\n' :: rest => some rest
  | _ => none

/-- What follows a line of which nothing but blanks and a comment is left. -/
def lineEnd? (cs : List Char) : Option (List Char) :=
  match skipBlanks cs with
  | '#' :: rest => newline? (rest.dropWhile isPlain)
  | cs => newline? cs

/-- The text after blanks, comments and line ends; `room` bounds the number of lines. -/
def skipLines : (room : Nat) → List Char → List Char
  | 0, cs => cs
  | room + 1, cs =>
    match skipBlanks cs with
    | [] => []
    | c :: rest =>
      match lineEnd? (c :: rest) with
      | some after => skipLines room after
      | none => c :: rest

/-! ## Strings -/

def charOf? (digits : List Char) : Option Char :=
  (digits.mapM (digit? 16)).bind fun ds =>
    let n := natOf 16 ds
    if n.isValidChar then some (Char.ofNat n) else none

def unescape? : Char → Option Char
  | 'b' => some '\x08'
  | 't' => some '\t'
  | 'n' => some '\n'
  | 'f' => some '\x0c'
  | 'r' => some '\r'
  | '"' => some '"'
  | '\\' => some '\\'
  | _ => none

def basic? : List Char → Option (List Char × List Char)
  | [] => none
  | '"' :: rest => some ([], rest)
  | '\\' :: 'u' :: a :: b :: c :: d :: rest =>
    (charOf? [a, b, c, d]).bind fun x => (basic? rest).map fun (cs, after) => (x :: cs, after)
  | '\\' :: 'U' :: a :: b :: c :: d :: e :: f :: g :: h :: rest =>
    (charOf? [a, b, c, d, e, f, g, h]).bind fun x =>
      (basic? rest).map fun (cs, after) => (x :: cs, after)
  | '\\' :: c :: rest =>
    (unescape? c).bind fun x => (basic? rest).map fun (cs, after) => (x :: cs, after)
  | c :: rest =>
    if c = '\\' ∨ isPlain c = false then none
    else (basic? rest).map fun (cs, after) => (c :: cs, after)

def literal? : List Char → Option (List Char × List Char)
  | [] => none
  | '\'' :: rest => some ([], rest)
  | c :: rest =>
    if isPlain c then (literal? rest).map fun (cs, after) => (c :: cs, after) else none

def endsLine (cs : List Char) : Bool :=
  match skipBlanks cs with
  | '\n' :: _ | '\r' :: '\n' :: _ => true
  | _ => false

/-- The characters of a string of several lines up to its three closing quotes, which up to two
more may precede.  After a backslash at the end of a line, `joining` drops blanks and line ends. -/
def longBasic? : (joining : Bool) → List Char → Option (List Char × List Char)
  | _, [] => none
  | true, ' ' :: rest | true, '\t' :: rest | true, '\n' :: rest => longBasic? true rest
  | true, '\r' :: '\n' :: rest => longBasic? true rest
  | _, '"' :: '"' :: '"' :: '"' :: '"' :: rest => some (['"', '"'], rest)
  | _, '"' :: '"' :: '"' :: '"' :: rest => some (['"'], rest)
  | _, '"' :: '"' :: '"' :: rest => some ([], rest)
  | _, '\r' :: '\n' :: rest => (longBasic? false rest).map fun (cs, after) => ('\n' :: cs, after)
  | _, '\\' :: 'u' :: a :: b :: c :: d :: rest =>
    (charOf? [a, b, c, d]).bind fun x =>
      (longBasic? false rest).map fun (cs, after) => (x :: cs, after)
  | _, '\\' :: 'U' :: a :: b :: c :: d :: e :: f :: g :: h :: rest =>
    (charOf? [a, b, c, d, e, f, g, h]).bind fun x =>
      (longBasic? false rest).map fun (cs, after) => (x :: cs, after)
  | _, '\\' :: c :: rest =>
    if endsLine (c :: rest) then longBasic? true (c :: rest)
    else
      (unescape? c).bind fun x =>
        (longBasic? false rest).map fun (cs, after) => (x :: cs, after)
  | _, c :: rest =>
    if c = '\n' ∨ (c ≠ '\\' ∧ isPlain c) then
      (longBasic? false rest).map fun (cs, after) => (c :: cs, after)
    else none

def longLiteral? : List Char → Option (List Char × List Char)
  | [] => none
  | '\'' :: '\'' :: '\'' :: '\'' :: '\'' :: rest => some (['\'', '\''], rest)
  | '\'' :: '\'' :: '\'' :: '\'' :: rest => some (['\''], rest)
  | '\'' :: '\'' :: '\'' :: rest => some ([], rest)
  | '\r' :: '\n' :: rest => (longLiteral? rest).map fun (cs, after) => ('\n' :: cs, after)
  | c :: rest =>
    if c = '\n' ∨ isPlain c then (longLiteral? rest).map fun (cs, after) => (c :: cs, after)
    else none

def dropNewline : List Char → List Char
  | '\n' :: rest => rest
  | '\r' :: '\n' :: rest => rest
  | cs => cs

def stringValue (found : List Char × List Char) : Json × List Char :=
  (.string (String.ofList found.1), found.2)

/-! ## Keys -/

def inKey (c : Char) : Bool := c.isAlphanum || c = '-' || c = '_'

def simpleKey? (cs : List Char) : Option (String × List Char) :=
  match cs with
  | '"' :: rest => (basic? rest).map fun (key, after) => (String.ofList key, after)
  | '\'' :: rest => (literal? rest).map fun (key, after) => (String.ofList key, after)
  | cs =>
    let key := cs.takeWhile inKey
    if key.isEmpty then none else some (String.ofList key, cs.dropWhile inKey)

def maxNames : Nat := 79

/-- A key as the path before its last dot and the name after it; `room` bounds the names. -/
def keyWithin? : (room : Nat) → List Char → Option ((List String × String) × List Char)
  | 0, _ => none
  | room + 1, cs =>
    (simpleKey? (skipBlanks cs)).bind fun (name, cs) =>
      match skipBlanks cs with
      | '.' :: cs => (keyWithin? room cs).map fun ((path, last), cs) => ((name :: path, last), cs)
      | cs => some (([], name), cs)

def key? : List Char → Option ((List String × String) × List Char) := keyWithin? maxNames

/-! ## Values -/

/-- The items of an array from its first one on; a comma may follow the last. -/
def items? (item : List Char → Option (Json × List Char)) (room : Nat) :
    (count : Nat) → List Char → Option (List Json × List Char)
  | 0, _ => none
  | count + 1, cs =>
    (item cs).bind fun (v, cs) =>
      match skipLines room cs with
      | ']' :: cs => some ([v], cs)
      | ',' :: cs =>
        match skipLines room cs with
        | ']' :: cs => some ([v], cs)
        | cs => (items? item room count cs).map fun (vs, cs) => (v :: vs, cs)
      | _ => none

def pair? (value : List Char → Option (Json × List Char)) (cs : List Char) :
    Option ((List String × String) × Json × List Char) :=
  (key? cs).bind fun (key, cs) =>
    match cs with
    | '=' :: cs => (value (skipBlanks cs)).map fun (v, cs) => (key, v, cs)
    | _ => none

/-- The pairs of an inline table from its first one on, put into a table. -/
def pairs? (value : List Char → Option (Json × List Char)) :
    (count : Nat) → Table → List Char → Option (Table × List Char)
  | 0, _, _ => none
  | count + 1, t, cs =>
    (pair? value cs).bind fun ((path, key), v, cs) =>
      (t.addPair path key v).bind fun t =>
        match skipBlanks cs with
        | '}' :: cs => some (t, cs)
        | ',' :: cs => pairs? value count t cs
        | _ => none

/-- The value that a text begins with; `room` bounds the items of an array or inline table and
`depth` their nesting. -/
def value? (room : Nat) : (depth : Nat) → List Char → Option (Json × List Char)
  | depth, cs =>
    match cs with
    | '"' :: '"' :: '"' :: cs => (longBasic? false (dropNewline cs)).map stringValue
    | '"' :: cs => (basic? cs).map stringValue
    | '\'' :: '\'' :: '\'' :: cs => (longLiteral? (dropNewline cs)).map stringValue
    | '\'' :: cs => (literal? cs).map stringValue
    | '[' :: cs =>
      match depth with
      | 0 => none
      | depth + 1 =>
        match skipLines room cs with
        | ']' :: cs => some (.array [], cs)
        | cs => (items? (value? room depth) room room cs).map fun (vs, cs) => (.array vs, cs)
    | '{' :: cs =>
      match depth with
      | 0 => none
      | depth + 1 =>
        match skipBlanks cs with
        | '}' :: cs => some (.object [], cs)
        | cs => (pairs? (value? room depth) room .root cs).map fun (t, cs) => (t.toJson, cs)
    | cs => scalar? cs

/-! ## Documents -/

def maxDepth : Nat := 79

def header? (cs : List Char) : Option ((List String × String) × List Char) :=
  (key? cs).bind fun (key, cs) =>
    match cs with
    | ']' :: cs => some (key, cs)
    | _ => none

/-- Reads lines into a document, given the path of the table they are in; `count` bounds their
number. -/
def lines? (room : Nat) :
    (count : Nat) → (current : List String) → Table → List Char → Option Table
  | 0, _, _, _ => none
  | count + 1, current, t, cs =>
    match skipBlanks cs with
    | [] => some t
    | '[' :: '[' :: cs =>
      (header? cs).bind fun ((path, key), cs) =>
        match cs with
        | ']' :: cs =>
          (t.openItem path key).bind fun t =>
            (lineEnd? cs).bind fun cs => lines? room count (path ++ [key]) t cs
        | _ => none
    | '[' :: cs =>
      (header? cs).bind fun ((path, key), cs) =>
        (t.openTable path key).bind fun t =>
          (lineEnd? cs).bind fun cs => lines? room count (path ++ [key]) t cs
    | cs =>
      match lineEnd? cs with
      | some cs => lines? room count current t cs
      | none =>
        (pair? (value? room maxDepth) cs).bind fun ((path, key), v, cs) =>
          (Table.descend false (Table.addPair path key v) current t).bind fun t =>
            (lineEnd? cs).bind fun cs => lines? room count current t cs

def byteOrderMark : Char := '\uFEFF'

def parse? (text : String) : Option Json :=
  let cs := match text.toList with
    | c :: rest => if c = byteOrderMark then rest else c :: rest
    | [] => []
  let room := cs.length + 1
  (lines? room room [] .root cs).map Table.toJson

end NetSweep.Toml
