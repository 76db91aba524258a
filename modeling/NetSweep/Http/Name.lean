import NetSweep.Http.Name.Mapping
import NetSweep.Http.Punycode
import NetSweep.Unicode.Composition
import NetSweep.Unicode.Direction
import NetSweep.Unicode.Joining

/-!
# Host names

A name consists of labels with dots between them.  On the wire it is ASCII in lower case: a label
with other characters is brought into its usual form and then encoded, behind a mark of its own.
A label that comes with the mark has to stand for one that would be written so.
-/

namespace NetSweep.Http.Name

open Text (splitAt)
open Unicode

/-- Characters that no name holds, escaped or not. -/
def isForbidden (c : Char) : Bool :=
  c.toNat ≤ 0x20 || c.toNat = 0x7F ||
    ['%', '#', '/', ':', '<', '>', '?', '@', '[', '\\', ']', '^', '|'].contains c

/-- The usual form of a text; nothing if one of its characters may not be in a name. -/
def usual? (cs : List Char) : Option (List Char) :=
  if cs.all isAscii then some (cs.map Char.toLower)
  else (cs.mapM fun c => (fate c).onto? c).map fun parts => compose parts.flatten

/-! ## What a label may hold -/

/-- Whether the invisible character between two parts of a label, the one before it in reverse,
may stand there: behind the sign that takes away a vowel or, if it keeps letters apart that would
join, between such letters. -/
def mayStandBetween (c : Char) (before after : List Char) : Bool :=
  (before.head?.any fun b => combiningClass b = viramaClass) ||
    (c = '\u200C' && (before.find? (!isTransparent ·)).any joinsNext
      && (after.find? (!isTransparent ·)).any joinsPrevious)

/-- Whether every invisible character of a label has a reason to stand where it stands, given what
is in front of the rest of the label, in reverse. -/
def joinersFit (before : List Char) : List Char → Bool
  | [] => true
  | c :: rest =>
    ((c ≠ '\u200C' && c ≠ '\u200D') || mayStandBetween c before rest)
      && joinersFit (c :: before) rest

def isSound (label : List Char) : Bool := !label.head?.any isMark && joinersFit [] label

/-- Whether a label holds a character that is written from the right. -/
def turns (label : List Char) : Bool :=
  if label.all isAscii then false
  else label.any fun c => direction c = .right || direction c = .arabicNumber

/-- Whether characters that are not marks, the last one first, may end a label. -/
def endsWith (allowed : List Direction) (body : List Direction) : Bool :=
  body.head?.all allowed.contains

/-- Whether a label may be in a name of which some label turns: it has one direction, which its
first character decides, and shows it at both ends. -/
def keepsDirection (label : List Char) : Bool :=
  match label.map direction with
  | [] => true
  | first :: rest =>
    let body := rest.reverse.dropWhile (· = .mark)
    match first with
    | .left =>
      endsWith [.left, .number] body && body.all [.left, .number, .neutral, .mark].contains
    | .right =>
      endsWith [.right, .number, .arabicNumber] body
        && body.all [.right, .arabicNumber, .number, .neutral, .mark].contains
        && !(body.contains .number && body.contains .arabicNumber)
    | _ => false

/-! ## Reading -/

/-- A label: what it says, and how it is written in ASCII. -/
structure Label where
  shown : List Char
  written : List Char
deriving DecidableEq, Repr

def mark : List Char := ['x', 'n', '-', '-']

def maxShown : Nat := 1000

def maxWritten : Nat := 2000

def labelOf? (cs : List Char) : Option Label :=
  if cs.take 4 = mark then
    let written := cs.drop 4
    if !written.all isAscii ∨ cs.getLast? = some '-' ∨ maxWritten < written.length then none
    else
      (Punycode.decode? written).bind fun shown =>
        if usual? shown = some shown ∧ isSound shown then some { shown, written := cs } else none
  else if cs.all isAscii then some { shown := cs, written := cs }
  else if isSound cs ∧ cs.length ≤ maxShown then
    some { shown := cs, written := mark ++ Punycode.encode cs }
  else none

/-- Whether labels can be in one name: if one of them turns, all have to keep their direction. -/
def fitTogether (labels : List Label) : Bool :=
  if labels.any (fun l => turns l.shown) then labels.all (fun l => keepsDirection l.shown) else true

def toAscii? (name : List Char) : Option (List Char) :=
  ((splitAt (· = '.') name).mapM usual?).bind fun texts =>
    ((texts.flatMap (splitAt (· = '.'))).mapM labelOf?).bind fun labels =>
      let written := List.intercalate ['.'] (labels.map Label.written)
      if written.any isForbidden then none
      else if fitTogether labels then some written
      else none

example : (toAscii? "WWW.Example-1.org".toList).map String.ofList = some "www.example-1.org" := by
  cbv

end NetSweep.Http.Name
