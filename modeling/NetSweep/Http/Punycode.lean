/-!
# Internationalised labels

A label of a host name that holds characters beyond ASCII is written in ASCII: its ASCII
characters, then the others in ascending order of code point, each as the number of steps a
reader has to count on before it inserts one.  The steps are digits in base 36 whose thresholds
follow the size of the numbers before.
-/

namespace NetSweep.Http.Punycode

def digitChar (d : Nat) : Char :=
  if d < 26 then Char.ofNat ('a'.toNat + d) else Char.ofNat ('0'.toNat + (d - 26))

/-- The least value at which a digit is followed by another one. -/
def threshold (place bias : Nat) : Nat :=
  if place ≤ bias then 1 else if bias + 26 ≤ place then 26 else place - bias

theorem threshold_pos (place bias : Nat) : 1 ≤ threshold place bias := by
  unfold threshold
  split
  · omega
  · split <;> omega

theorem threshold_le (place bias : Nat) : threshold place bias ≤ 26 := by
  unfold threshold
  split
  · omega
  · split <;> omega

/-- Divides by 35 until the number is at most 455, counting 36 for each division. -/
def shrink (delta count : Nat) : Nat × Nat :=
  if 455 < delta then shrink (delta / 35) (count + 36) else (delta, count)
termination_by delta
decreasing_by exact Nat.div_lt_self (by omega) (by omega)

/-- The bias after a number, given how many characters have been written. -/
def adapt (delta written : Nat) (first : Bool) : Nat :=
  let start := if first then delta / 700 else delta / 2
  let (delta, count) := shrink (start + start / written) 0
  count + 36 * delta / (delta + 38)

def encodeNumber (bias place number : Nat) : List Char :=
  let t := threshold place bias
  if number < t then [digitChar number]
  else
    digitChar (t + (number - t) % (36 - t))
      :: encodeNumber bias (place + 36) ((number - t) / (36 - t))
termination_by number
decreasing_by
  have := threshold_pos place bias
  have := threshold_le place bias
  calc (number - threshold place bias) / (36 - threshold place bias)
      ≤ number - threshold place bias := Nat.div_le_self _ _
    _ < number := by omega

structure Progress where
  out : List Char
  delta : Nat
  bias : Nat
  written : Nat

/-- Passes one character of the label while the code point `code` is being written. -/
def pass (ascii code : Nat) (p : Progress) (c : Char) : Progress :=
  if c.toNat < code then { p with delta := p.delta + 1 }
  else if c.toNat = code then
    { out := p.out ++ encodeNumber p.bias 36 p.delta, delta := 0
      bias := adapt p.delta (p.written + 1) (p.written == ascii), written := p.written + 1 }
  else p

/-- Writes the code points of a list, which ascends from `next` on. -/
def writeAll (label : List Char) (ascii : Nat) : List Nat → Nat → Progress → Progress
  | [], _, p => p
  | code :: rest, next, p =>
    let p := { p with delta := p.delta + (code - next) * (p.written + 1) }
    let p := label.foldl (pass ascii code) p
    writeAll label ascii rest (code + 1) { p with delta := p.delta + 1 }

/-- A label in ASCII, without the mark that says it is encoded. -/
def encode (label : List Char) : List Char :=
  let ascii := label.filter (·.toNat < 0x80)
  let others := ((label.filter (0x80 ≤ ·.toNat)).map Char.toNat).mergeSort.eraseDups
  ascii ++ (if ascii.isEmpty then [] else ['-'])
    ++ (writeAll label ascii.length others 0x80
      { out := [], delta := 0, bias := 72, written := ascii.length }).out

example : String.ofList (encode "bücher".toList) = "bcher-kva" := by cbv
example : String.ofList (encode "münchen".toList) = "mnchen-3ya" := by cbv

/-! ## Reading -/

def digit? (c : Char) : Option Nat :=
  if 'a' ≤ c ∧ c ≤ 'z' then some (c.toNat - 'a'.toNat)
  else if '0' ≤ c ∧ c ≤ '9' then some (c.toNat - '0'.toNat + 26)
  else none

/-- A number that fits 32 bits. -/
def word? (n : Nat) : Option Nat := if n < Nat.pow 2 32 then some n else none

/-- Adds the number that a text begins with to `sum`, the next digit counting `weight`. -/
def readNumber? (bias : Nat) : (place weight sum : Nat) → List Char → Option (Nat × List Char)
  | _, _, _, [] => none
  | place, weight, sum, c :: rest =>
    (digit? c).bind fun d =>
      (word? (sum + d * weight)).bind fun sum =>
        if d < threshold place bias then some (sum, rest)
        else
          (word? (weight * (36 - threshold place bias))).bind fun weight =>
            readNumber? bias (place + 36) weight sum rest

theorem readNumber?_length (bias place weight sum : Nat) (cs : List Char) (r : Nat × List Char)
    (h : readNumber? bias place weight sum cs = some r) : r.2.length < cs.length := by
  induction cs generalizing place weight sum with
  | nil => simp [readNumber?] at h
  | cons c rest ih =>
    simp only [readNumber?, Option.bind_eq_some_iff] at h
    obtain ⟨d, _, sum', _, h⟩ := h
    split at h
    · cases h; simp
    · obtain ⟨weight', _, h⟩ := Option.bind_eq_some_iff.1 h
      exact Nat.lt_succ_of_lt (ih _ _ _ h)

def char? (code : Nat) : Option Char := if code.isValidChar then some (Char.ofNat code) else none

/-- Inserts the characters that numbers tell of into a label, from the code point `code` and the
place `place` on. -/
def insertAll? (bias code place : Nat) (label : List Char) (cs : List Char) :
    Option (List Char) :=
  match cs with
  | [] => some label
  | c :: rest =>
    match _h : readNumber? bias 36 1 place (c :: rest) with
    | none => none
    | some (sum, after) =>
      let size := label.length + 1
      (char? (code + sum / size)).bind fun x =>
        insertAll? (adapt (sum - place) size (place == 0)) (code + sum / size) (sum % size + 1)
          (label.insertIdx (sum % size) x) after
termination_by cs.length
decreasing_by exact readNumber?_length _ _ _ _ _ _ (by assumption)

/-- The label that is written in ASCII, without the mark that says so. -/
def decode? (cs : List Char) : Option (List Char) :=
  let after := (cs.reverse.takeWhile (· ≠ '-')).reverse
  let ascii := cs.take (cs.length - after.length - 1)
  insertAll? 72 0x80 0 ascii (if ascii.isEmpty then cs else after)

example : (decode? "bcher-kva".toList).map String.ofList = some "bücher" := by cbv
example : decode? "99999".toList = none := by cbv

end NetSweep.Http.Punycode
