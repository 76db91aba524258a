import NetSweep.Http.Percent
import NetSweep.Proofs.Utf8Texts

/-!
# Percent-encoded text and what it stands for

Encoding does not change the bytes that a text stands for, and it keeps a percent sign that the
text has.  So a text stands for its own bytes if it has no escape, that is, no percent sign before
two hexadecimal digits; each escape that it has stands for one byte where the text has three.
-/

namespace NetSweep.Http

open Text (utf8)

/-! ## Escapes -/

def beginsHex : List Char → Bool
  | h :: l :: _ => (hexByte? h l).isSome
  | _ => false

def hasEscape : List Char → Bool
  | [] => false
  | c :: rest => c = '%' && beginsHex rest || hasEscape rest

theorem hexByte?_isSome (h l : Char) :
    (hexByte? h l).isSome = ((hexDigit? h).isSome && (hexDigit? l).isSome) := by
  cases hh : hexDigit? h <;> cases hl : hexDigit? l <;> simp [hexByte?, hh, hl]

theorem percentDecode_escape {h l : Char} {b : UInt8} (hb : hexByte? h l = some b)
    (rest : List Char) : percentDecode ('%' :: h :: l :: rest) = b :: percentDecode rest := by
  rw [percentDecode, hb]

theorem percentDecode_cons {c : Char} {rest : List Char}
    (h : (c = '%' && beginsHex rest) = false) :
    percentDecode (c :: rest) = utf8 [c] ++ percentDecode rest := by
  by_cases hc : c = '%'
  · subst hc
    match rest with
    | [] | [_] => rfl
    | high :: low :: rest =>
      have hnone : hexByte? high low = none := by simpa [beginsHex] using h
      rw [percentDecode, hnone]
  · rw [percentDecode]
    rintro high low rest' rfl
    exact absurd rfl hc

/-- A text that begins with two hexadecimal digits, taken apart. -/
theorem exists_of_beginsHex {cs : List Char} (h : beginsHex cs = true) :
    ∃ high low b rest, cs = high :: low :: rest ∧ hexByte? high low = some b := by
  match cs with
  | high :: low :: rest =>
    obtain ⟨b, hb⟩ := Option.isSome_iff_exists.1 h
    exact ⟨high, low, b, rest, rfl, hb⟩

theorem beginsHex_of_first {c : Char} (h : hexDigit? c = none) (rest : List Char) :
    beginsHex (c :: rest) = false := by
  cases rest with
  | nil => rfl
  | cons d rest => simp [beginsHex, hexByte?_isSome, h]

theorem beginsHex_of_second {d : Char} (h : hexDigit? d = none) (c : Char) (rest : List Char) :
    beginsHex (c :: d :: rest) = false := by
  simp [beginsHex, hexByte?_isSome, h]

/-- Induction over a text as it is decoded. -/
theorem percent_induction {motive : List Char → Prop} (nil : motive [])
    (escape : ∀ h l b rest, hexByte? h l = some b → motive rest → motive ('%' :: h :: l :: rest))
    (cons : ∀ c rest, (c = '%' && beginsHex rest) = false → motive rest → motive (c :: rest))
    (cs : List Char) : motive cs := by
  induction hn : cs.length using Nat.strong_induction_on generalizing cs with
  | _ n ih =>
    match cs with
    | [] => exact nil
    | c :: rest =>
      cases hc : c = '%' && beginsHex rest with
      | false =>
        refine cons c rest hc (ih rest.length ?_ rest rfl)
        rw [← hn, List.length_cons]
        exact Nat.lt_succ_self _
      | true =>
        obtain ⟨hpercent, hhex⟩ := (Bool.and_eq_true _ _).mp hc
        obtain rfl := of_decide_eq_true hpercent
        obtain ⟨h, l, b, rest, rfl, hb⟩ := exists_of_beginsHex hhex
        refine escape h l b rest hb (ih rest.length ?_ rest rfl)
        simp only [← hn, List.length_cons]
        omega

/-! ## The bytes of a text -/

theorem percentDecode_of_no_escape {cs : List Char} (h : hasEscape cs = false) :
    percentDecode cs = utf8 cs := by
  induction cs with
  | nil => rfl
  | cons c rest ih =>
    obtain ⟨hc, hrest⟩ := (Bool.or_eq_false_iff).1 h
    rw [percentDecode_cons hc, ih hrest]
    simp [utf8]

theorem length_utf8_pos (c : Char) : 0 < (utf8 [c]).length := by
  rw [utf8, List.flatMap_singleton, String.length_utf8EncodeChar]
  exact c.utf8Size_pos

theorem utf8_cons (c : Char) (cs : List Char) : utf8 (c :: cs) = utf8 [c] ++ utf8 cs := by
  simp [utf8]

/-- No text stands for more bytes than it has, and one with an escape stands for fewer. -/
theorem length_percentDecode (cs : List Char) :
    (percentDecode cs).length ≤ (utf8 cs).length ∧
      (hasEscape cs = true → (percentDecode cs).length < (utf8 cs).length) := by
  induction cs using percent_induction with
  | nil => exact ⟨le_rfl, nofun⟩
  | escape h l b rest hb ih =>
    have hpercent := length_utf8_pos '%'
    have hh := length_utf8_pos h
    have hl := length_utf8_pos l
    rw [percentDecode_escape hb, utf8_cons, utf8_cons h, utf8_cons l]
    simp only [List.length_append, List.length_cons]
    omega
  | cons c rest hc ih =>
    rw [percentDecode_cons hc, utf8_cons c rest, hasEscape, hc, Bool.false_or]
    simpa only [List.length_append, Nat.add_le_add_iff_left, Nat.add_lt_add_iff_left] using ih

theorem percentDecode_eq_nil {cs : List Char} (h : percentDecode cs = []) : cs = [] := by
  induction cs using percent_induction with
  | nil => rfl
  | escape h l b rest hb _ =>
    rw [percentDecode_escape hb] at h
    cases h
  | cons c rest hc _ =>
    rw [percentDecode_cons hc] at h
    have hlength := congrArg List.length h
    have hpos := length_utf8_pos c
    simp only [List.length_append, List.length_nil] at hlength
    omega

/-! ## Encoding -/

/-- The set leaves percent signs and hexadecimal digits as they are. -/
structure EncodeSet.Clear (set : EncodeSet) : Prop where
  percent : set '%' = false
  digit : ∀ c, (hexDigit? c).isSome = true → set c = false

theorem encodeChar_of_not_mem {set : EncodeSet} {c : Char} (h : set c = false) :
    encodeChar set c = [c] := by simp [encodeChar, h]

theorem percentDecode_percentByte (b : UInt8) (rest : List Char) :
    percentDecode (percentByte b ++ rest) = b :: percentDecode rest := by
  have hdigit : ∀ d < 16, hexDigit? (upperHex d) = some d := by decide
  have hb : b.toNat < 256 := b.toNat_lt
  have hbyte : hexByte? (upperHex (b.toNat / 16)) (upperHex (b.toNat % 16)) = some b := by
    have hwhole : b.toNat / 16 * 16 + b.toNat % 16 = b.toNat := by omega
    rw [hexByte?, hdigit _ (by omega), hdigit _ (by omega), Option.bind_some, Option.map_some,
      hwhole, UInt8.ofNat_toNat]
  exact percentDecode_escape hbyte rest

theorem percentDecode_percentBytes (bytes : List UInt8) (rest : List Char) :
    percentDecode (bytes.flatMap percentByte ++ rest) = bytes ++ percentDecode rest := by
  induction bytes with
  | nil => rfl
  | cons b bytes ih =>
    rw [List.flatMap_cons, List.append_assoc, percentDecode_percentByte, ih, List.cons_append]

/-- What an encoded character begins with: itself, or a percent sign. -/
theorem exists_encodeChar (set : EncodeSet) (c : Char) :
    ∃ first rest, encodeChar set c = first :: rest ∧
      (set c = false ∧ first = c ∧ rest = [] ∨ set c = true ∧ first = '%') := by
  cases hset : set c with
  | false => exact ⟨c, [], encodeChar_of_not_mem hset, .inl ⟨rfl, rfl, rfl⟩⟩
  | true =>
    obtain ⟨b, bytes, hbytes⟩ := List.exists_cons_of_length_pos (length_utf8_pos c)
    have hencoded : encodeChar set c = percentByte b ++ bytes.flatMap percentByte := by
      rw [encodeChar, if_pos hset, hbytes, List.flatMap_cons]
    exact ⟨'%', _, hencoded, .inr ⟨rfl, rfl⟩⟩

namespace EncodeSet.Clear

variable {set : EncodeSet}

/-- Encoding does not bring two hexadecimal digits to the beginning of a text. -/
theorem beginsHex (h : set.Clear) (cs : List Char) :
    Http.beginsHex (percentEncode set cs) = Http.beginsHex cs := by
  have hmarked : ∀ c, set c = true → hexDigit? c = none := fun c hc => by
    cases hdigit : hexDigit? c with
    | none => rfl
    | some d =>
      have hclear := h.digit c (by rw [hdigit]; rfl)
      rw [hc] at hclear
      cases hclear
  cases cs with
  | nil => rfl
  | cons c cs =>
    obtain ⟨first, rest, hc, ⟨-, rfl, rfl⟩ | ⟨hset, rfl⟩⟩ := exists_encodeChar set c
    · cases cs with
      | nil => rw [percentEncode, List.flatMap_singleton, hc]
      | cons d cs =>
        obtain ⟨second, more, hd, ⟨-, rfl, rfl⟩ | ⟨hset, rfl⟩⟩ := exists_encodeChar set d
        · rw [percentEncode, List.flatMap_cons, List.flatMap_cons, hc, hd]
          rfl
        · rw [percentEncode, List.flatMap_cons, List.flatMap_cons, hc, hd,
            beginsHex_of_second (hmarked d hset)]
          exact beginsHex_of_second rfl _ _
    · rw [percentEncode, List.flatMap_cons, hc, beginsHex_of_first (hmarked c hset)]
      exact beginsHex_of_first rfl _

/-- Encoding leaves the bytes that a text stands for. -/
theorem percentDecode (h : set.Clear) (cs : List Char) :
    Http.percentDecode (percentEncode set cs) = Http.percentDecode cs := by
  induction cs using percent_induction with
  | nil => rfl
  | escape high low b rest hb ih =>
    obtain ⟨hhigh, hlow⟩ := (Bool.and_eq_true _ _).mp
      ((hexByte?_isSome high low).symm.trans (by rw [hb]; rfl))
    have hkept : percentEncode set ('%' :: high :: low :: rest) =
        '%' :: high :: low :: percentEncode set rest := by
      rw [percentEncode, List.flatMap_cons, List.flatMap_cons, List.flatMap_cons,
        encodeChar_of_not_mem h.percent, encodeChar_of_not_mem (h.digit high hhigh),
        encodeChar_of_not_mem (h.digit low hlow)]
      rfl
    rw [hkept, percentDecode_escape hb, percentDecode_escape hb, ih]
  | cons c rest hc ih =>
    rw [percentDecode_cons hc, percentEncode, List.flatMap_cons, ← percentEncode]
    cases hset : set c with
    | false =>
      rw [encodeChar_of_not_mem hset, List.singleton_append,
        percentDecode_cons (by rw [h.beginsHex, hc]), ih]
    | true => rw [encodeChar, if_pos hset, percentDecode_percentBytes, ih]

end EncodeSet.Clear

/-- Hexadecimal digits are visible ASCII characters. -/
theorem bounds_of_hexDigit? {c : Char} (h : (hexDigit? c).isSome = true) :
    0x20 < c.toNat ∧ c.toNat < 0x7F := by
  have hle : ∀ a b : Char, a ≤ b → a.toNat ≤ b.toNat := fun a b => UInt32.le_iff_toNat_le.1
  unfold hexDigit? at h
  split at h
  · rename_i hc
    exact ⟨(by decide : 0x20 < '0'.toNat).trans_le (hle _ _ hc.1),
      (hle _ _ hc.2).trans_lt (by decide)⟩
  split at h
  · rename_i hc
    exact ⟨(by decide : 0x20 < 'a'.toNat).trans_le (hle _ _ hc.1),
      (hle _ _ hc.2).trans_lt (by decide)⟩
  split at h
  · rename_i hc
    exact ⟨(by decide : 0x20 < 'A'.toNat).trans_le (hle _ _ hc.1),
      (hle _ _ hc.2).trans_lt (by decide)⟩
  · cases h

theorem EncodeSet.clear_plus {more : List Char} (hpercent : '%' ∉ more)
    (hdigit : more.all (fun c => (hexDigit? c).isNone) = true) : (EncodeSet.plus more).Clear where
  percent := by
    simpa [plus, control] using hpercent
  digit c hc := by
    obtain ⟨hlow, hhigh⟩ := bounds_of_hexDigit? hc
    have hcontrol : control c = false := by
      simp only [control, Bool.or_eq_false_iff, decide_eq_false_iff_not]
      omega
    have hmore : c ∉ more := fun hmem => by
      have hnone := Option.isNone_iff_eq_none.1 (List.all_eq_true.1 hdigit c hmem)
      rw [hnone] at hc
      cases hc
    simp [plus, hcontrol, hmore]

theorem EncodeSet.clear_segment : EncodeSet.segment.Clear := clear_plus (by decide) (by decide)

theorem EncodeSet.clear_path : EncodeSet.path.Clear := clear_plus (by decide) (by decide)

/-! ## Parts of a text -/

/-- A character that is neither a percent sign nor a digit parts what a text stands for. -/
theorem percentDecode_append_cons {c : Char} (hpercent : c ≠ '%') (hdigit : hexDigit? c = none)
    (cs ds : List Char) :
    percentDecode (cs ++ c :: ds) = percentDecode cs ++ utf8 [c] ++ percentDecode ds := by
  induction cs using percent_induction with
  | nil => exact percentDecode_cons (by simp [hpercent])
  | escape h l b rest hb ih =>
    simp only [List.cons_append, percentDecode_escape hb, ih]
  | cons d rest hd ih =>
    have hd' : (d = '%' && beginsHex (rest ++ c :: ds)) = false := by
      match rest with
      | [] => simp [beginsHex_of_first hdigit]
      | [e] => simp [beginsHex_of_second hdigit]
      | _ :: _ :: _ => exact hd
    rw [List.cons_append, percentDecode_cons hd', percentDecode_cons hd, ih]
    simp only [List.append_assoc]

end NetSweep.Http
