import Mathlib.Tactic.IntervalCases
import NetSweep.Text.Utf8

/-!
# Texts and their bytes

A character is read back from the bytes that it is written as, and so is a text.  Nothing else
reads as that text: what is read without a replacement is the bytes of what was read.
-/

namespace NetSweep.Text

theorem toNat_ofNat_of_lt {n : Nat} (h : n < 256) : (UInt8.ofNat n).toNat = n := by
  rw [UInt8.toNat_ofNat']
  exact Nat.mod_eq_of_lt h

/-! ## One character -/

/-- A first byte, and after it the bytes that it announces. -/
theorem decodeLossy_announced {b : UInt8} {l : Lead} {following rest : List UInt8} {code : Nat}
    (hb : ¬b.toNat < 0x80) (hlead : lead? b.toNat = some l)
    (htake : takeFollowing l.following l.payload l.low l.high (following ++ rest) =
      (some code, rest)) :
    decodeLossy (b :: following ++ rest) = Char.ofNat code :: decodeLossy rest := by
  rw [List.cons_append, decodeLossy, if_neg hb, hlead]
  dsimp only
  rw [htake]

/-- A byte with six bits of a code is taken in, if it is within the bounds. -/
theorem takeFollowing_six {following payload low high m : Nat} (hlow : low ≤ m % 64 + 0x80)
    (hhigh : m % 64 + 0x80 ≤ high) (rest : List UInt8) :
    takeFollowing (following + 1) payload low high (UInt8.ofNat (m % 64 + 0x80) :: rest) =
      takeFollowing following (payload * 64 + m % 64) 0x80 0xBF rest := by
  have hbyte : (UInt8.ofNat (m % 64 + 0x80)).toNat = m % 64 + 0x80 := toNat_ofNat_of_lt (by omega)
  rw [takeFollowing, hbyte, if_pos ⟨hlow, hhigh⟩, Nat.add_sub_cancel]

theorem takeFollowing_any_six (following payload m : Nat) (rest : List UInt8) :
    takeFollowing (following + 1) payload 0x80 0xBF (UInt8.ofNat (m % 64 + 0x80) :: rest) =
      takeFollowing following (payload * 64 + m % 64) 0x80 0xBF rest :=
  takeFollowing_six (by omega) (by omega) rest

theorem lead?_two {d : Nat} (h : 2 ≤ d) (h' : d < 32) :
    lead? (d + 0xC0) = some ⟨1, d, 0x80, 0xBF⟩ := by
  rw [lead?, if_pos (by omega), Nat.add_sub_cancel]

/-- The second of three bytes is bounded so that each code has one form and no surrogate has any. -/
theorem lead?_three {d : Nat} (h : d < 16) : lead? (d + 0xE0) =
    some ⟨2, d, if d = 0 then 0xA0 else 0x80, if d = 13 then 0x9F else 0xBF⟩ := by
  interval_cases d <;> rfl

theorem lead?_four {d : Nat} (h : d < 5) : lead? (d + 0xF0) =
    some ⟨3, d, if d = 0 then 0x90 else 0x80, if d = 4 then 0x8F else 0xBF⟩ := by
  interval_cases d <;> rfl

/-- A character is read back from its bytes. -/
theorem decodeLossy_utf8EncodeChar (c : Char) (rest : List UInt8) :
    decodeLossy (String.utf8EncodeChar c ++ rest) = c :: decodeLossy rest := by
  have hvalid : c.val.toNat < 0xD800 ∨ 0xDFFF < c.val.toNat ∧ c.val.toNat < 0x110000 := c.valid
  have hself : Char.ofNat c.val.toNat = c := Char.ofNat_toNat c
  rw [String.utf8EncodeChar]
  generalize c.val.toNat = n at hvalid hself ⊢
  obtain rfl := hself.symm
  -- One case for each number of bytes; the payload and the sixes below make up the code.
  split
  · have hb : (UInt8.ofNat n).toNat = n := toNat_ofNat_of_lt (by omega)
    rw [List.singleton_append, decodeLossy, if_pos (by omega), hb]
  split
  · have hb : (UInt8.ofNat (n / 64 % 32 + 0xC0)).toNat = n / 64 + 0xC0 := by
      rw [toNat_ofNat_of_lt (by omega)]
      omega
    have hcode : n / 64 * 64 + n % 64 = n := by omega
    refine decodeLossy_announced (by omega) (hb ▸ lead?_two (by omega) (by omega)) ?_
    dsimp only
    rw [List.singleton_append, takeFollowing_any_six, hcode, takeFollowing]
  split
  · have hb : (UInt8.ofNat (n / 4096 % 16 + 0xE0)).toNat = n / 4096 + 0xE0 := by
      rw [toNat_ofNat_of_lt (by omega)]
      omega
    have hcode : (n / 4096 * 64 + n / 64 % 64) * 64 + n % 64 = n := by omega
    refine decodeLossy_announced (by omega) (hb ▸ lead?_three (by omega)) ?_
    dsimp only
    rw [List.cons_append, takeFollowing_six (by split <;> omega) (by split <;> omega),
      List.singleton_append, takeFollowing_any_six, hcode, takeFollowing]
  · have hb : (UInt8.ofNat (n / 262144 % 8 + 0xF0)).toNat = n / 262144 + 0xF0 := by
      rw [toNat_ofNat_of_lt (by omega)]
      omega
    have hcode : ((n / 262144 * 64 + n / 4096 % 64) * 64 + n / 64 % 64) * 64 + n % 64 = n := by
      omega
    refine decodeLossy_announced (by omega) (hb ▸ lead?_four (by omega)) ?_
    dsimp only
    rw [List.cons_append, takeFollowing_six (by split <;> omega) (by split <;> omega),
      List.cons_append, takeFollowing_any_six, List.singleton_append, takeFollowing_any_six, hcode,
      takeFollowing]

/-! ## Texts -/

/-- A text is read back from its bytes. -/
theorem decodeLossy_utf8 (cs : List Char) : decodeLossy (utf8 cs) = cs := by
  induction cs with
  | nil => rw [utf8, List.flatMap_nil, decodeLossy]
  | cons c cs ih => rw [utf8, List.flatMap_cons, decodeLossy_utf8EncodeChar, ← utf8, ih]

theorem utf8_injective {cs ds : List Char} (h : utf8 cs = utf8 ds) : cs = ds := by
  rw [← decodeLossy_utf8 cs, h, decodeLossy_utf8]

/-- The bytes that read as a text are that text's. -/
theorem text?_eq_some_iff {bytes : List UInt8} {s : String} :
    text? bytes = some s ↔ bytes = utf8Bytes s := by
  constructor
  · intro h
    simp only [text?] at h
    split at h
    · rename_i hbytes
      obtain rfl := Option.some.inj h
      rw [utf8Bytes, String.toList_ofList, hbytes]
    · cases h
  · rintro rfl
    simp only [text?, utf8Bytes, decodeLossy_utf8, if_true, String.ofList_toList]

end NetSweep.Text
