/-!
# UTF-8

Texts become bytes by the encoding that strings have anyway.  Bytes become text leniently: every
maximal part that cannot be the beginning of a character is read as one replacement character.
-/

namespace NetSweep.Text

def utf8 (cs : List Char) : List UInt8 := cs.flatMap String.utf8EncodeChar

def utf8Bytes (s : String) : List UInt8 := utf8 s.toList

/-- What stands for bytes that are no character. -/
def replacement : Char := '\uFFFD'

/-- How a character may begin: the number of bytes that follow, the payload of the first byte,
and the bounds of the second byte. -/
structure Lead where
  following : Nat
  payload : Nat
  low : Nat
  high : Nat

/-- What a first byte announces; nothing if it is no first byte of a longer character. -/
def lead? (b : Nat) : Option Lead :=
  if 0xC2 ≤ b ∧ b ≤ 0xDF then some ⟨1, b - 0xC0, 0x80, 0xBF⟩
  else if b = 0xE0 then some ⟨2, 0, 0xA0, 0xBF⟩
  else if b = 0xED then some ⟨2, 0xD, 0x80, 0x9F⟩
  else if 0xE1 ≤ b ∧ b ≤ 0xEF then some ⟨2, b - 0xE0, 0x80, 0xBF⟩
  else if b = 0xF0 then some ⟨3, 0, 0x90, 0xBF⟩
  else if 0xF1 ≤ b ∧ b ≤ 0xF3 then some ⟨3, b - 0xF0, 0x80, 0xBF⟩
  else if b = 0xF4 then some ⟨3, 4, 0x80, 0x8F⟩
  else none

/-- Takes in the bytes that have to follow; the number left out counts those missing when a byte
does not fit, and the rest begins with that byte. -/
def takeFollowing : (following payload low high : Nat) → List UInt8 →
    Option Nat × List UInt8
  | 0, payload, _, _, bytes => (some payload, bytes)
  | _ + 1, _, _, _, [] => (none, [])
  | n + 1, payload, low, high, b :: rest =>
    if low ≤ b.toNat ∧ b.toNat ≤ high then
      takeFollowing n (payload * 64 + (b.toNat - 0x80)) 0x80 0xBF rest
    else (none, b :: rest)

theorem takeFollowing_length (n payload low high : Nat) (bytes : List UInt8) :
    (takeFollowing n payload low high bytes).2.length ≤ bytes.length := by
  induction n generalizing payload low high bytes with
  | zero => simp [takeFollowing]
  | succ n ih =>
    cases bytes with
    | nil => simp [takeFollowing]
    | cons b rest =>
      unfold takeFollowing
      split
      · exact Nat.le_succ_of_le (ih ..)
      · simp

/-- The characters of bytes, one replacement for every maximal part that is none. -/
def decodeLossy : List UInt8 → List Char
  | [] => []
  | b :: rest =>
    if b.toNat < 0x80 then Char.ofNat b.toNat :: decodeLossy rest
    else
      match lead? b.toNat with
      | none => replacement :: decodeLossy rest
      | some l =>
        (match (takeFollowing l.following l.payload l.low l.high rest).1 with
          | some code => Char.ofNat code
          | none => replacement)
          :: decodeLossy (takeFollowing l.following l.payload l.low l.high rest).2
termination_by bytes => bytes.length
decreasing_by
  all_goals simp_wf
  have h := takeFollowing_length l.following l.payload l.low l.high rest
  omega

def textLossy (bytes : List UInt8) : String := String.ofList (decodeLossy bytes)

def text? (bytes : List UInt8) : Option String :=
  let cs := decodeLossy bytes
  if utf8 cs = bytes then some (String.ofList cs) else none

end NetSweep.Text
