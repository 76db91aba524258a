import NetSweep.Text.Split

/-!
# Tables of code points

The properties of characters are tables, written as rows of words with one blank between two
words.  All numbers in the words are hexadecimal.
-/

namespace NetSweep.Unicode

def digitValue (c : Char) : Nat :=
  if c.isDigit then c.toNat - '0'.toNat else c.toNat - 'A'.toNat + 10

def number (cs : List Char) : Nat := cs.foldl (fun n c => n * 16 + digitValue c) 0

def character (cs : List Char) : Char := Char.ofNat (number cs)

def words (row : String) : List (List Char) := Text.splitAt (· = ' ') row.toList

/-- The parts of a word before and after the first place where a mark stands. -/
def cut (mark : Char) (word : List Char) : List Char × List Char :=
  (word.takeWhile (· ≠ mark), (word.dropWhile (· ≠ mark)).drop 1)

/-- The first and the last code point of a word such as `300-36F`; a single one is both. -/
def rangeOf (word : List Char) : Nat × Nat :=
  let (first, last) := cut '-' word
  (number first, number (if last.isEmpty then first else last))

def ranges (rows : List String) : List (Nat × Nat) := rows.flatMap fun r => (words r).map rangeOf

def isWithin (ranges : List (Nat × Nat)) (c : Char) : Bool :=
  ranges.any fun r => r.1 ≤ c.toNat && c.toNat ≤ r.2

def isAscii (c : Char) : Bool := c.toNat < 0x80

example : ranges ["AD 300-36F"] = [(0xAD, 0xAD), (0x300, 0x36F)] := by cbv

end NetSweep.Unicode
