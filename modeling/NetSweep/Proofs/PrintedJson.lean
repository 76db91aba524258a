import Mathlib.Data.Nat.Digits.Defs
import Mathlib.Tactic.IntervalCases
import NetSweep.Http.Exchange
import NetSweep.Json.Printer
import NetSweep.Proofs.CanonicalJson
import NetSweep.Proofs.Utf8Texts

/-!
# JSON texts are read back

The text of a value is read as that value again: every string as it is, whatever characters it
has, and every whole number that fits 64 bits.  Left out are floats, and nesting deeper than texts
may have.
-/

namespace NetSweep

/-! ## Digits -/

namespace Decimal

theorem digitsOf_of_pos {n : Nat} (h : n ≠ 0) : digitsOf n = digitsOf (n / 10) ++ [n % 10] := by
  rw [digitsOf, if_neg h]

theorem lt_ten_of_mem_digitsOf {n d : Nat} (h : d ∈ digitsOf n) : d < 10 := by
  induction n using Nat.strong_induction_on with
  | _ n ih =>
    by_cases hn : n = 0
    · rw [hn, digitsOf, if_pos rfl] at h
      cases h
    · rw [digitsOf_of_pos hn] at h
      rcases List.mem_append.1 h with h | h
      · exact ih (n / 10) (Nat.div_lt_self (Nat.pos_of_ne_zero hn) (by decide)) h
      · obtain rfl := List.mem_singleton.1 h
        exact Nat.mod_lt _ (by decide)

/-- The first digit of a positive number is positive. -/
theorem exists_digitsOf_cons {n : Nat} (h : n ≠ 0) : ∃ d ds, digitsOf n = d :: ds ∧ d ≠ 0 := by
  induction n using Nat.strong_induction_on with
  | _ n ih =>
    rw [digitsOf_of_pos h]
    by_cases hten : n / 10 = 0
    · refine ⟨n % 10, [], ?_, by omega⟩
      rw [hten, digitsOf, if_pos rfl, List.nil_append]
    · obtain ⟨d, ds, hds, hd⟩ :=
        ih (n / 10) (Nat.div_lt_self (Nat.pos_of_ne_zero h) (by decide)) hten
      exact ⟨d, ds ++ [n % 10], by rw [hds, List.cons_append], hd⟩

theorem digitChar_isDigit {d : Nat} (h : d < 10) : (digitChar d).isDigit = true := by
  interval_cases d <;> decide

theorem digitChar_value {d : Nat} (h : d < 10) : (digitChar d).toNat - '0'.toNat = d := by
  interval_cases d <;> decide

end Decimal

namespace Json

open Decimal

/-- The text does not go on with a digit, a point or an exponent. -/
def EndsNumeral (after : List Char) : Prop :=
  ∀ c ∈ after.head?, c.isDigit = false ∧ c ≠ '.' ∧ c ≠ 'e' ∧ c ≠ 'E'

theorem digits_after {after : List Char} (h : EndsNumeral after) : digits after = ([], after) := by
  cases after with
  | nil => rfl
  | cons c rest =>
    have hc := (h c rfl).1
    rw [digits, if_neg (by simp [hc])]

theorem digits_map_digitChar {ds : List Nat} (hds : ∀ d ∈ ds, d < 10) {after : List Char}
    (h : EndsNumeral after) : digits (ds.map digitChar ++ after) = (ds, after) := by
  induction ds with
  | nil => exact digits_after h
  | cons d ds ih =>
    obtain ⟨hd, hds⟩ := List.forall_mem_cons.1 hds
    rw [List.map_cons, List.cons_append, digits, if_pos (digitChar_isDigit hd), ih hds,
      digitChar_value hd]

def wholeDigits (n : Nat) : List Nat := if n = 0 then [0] else digitsOf n

theorem wholeDigits?_natChars (n : Nat) {after : List Char} (h : EndsNumeral after) :
    wholeDigits? (natChars n ++ after) = some (wholeDigits n, after) := by
  by_cases hn : n = 0
  · rw [natChars, wholeDigits, if_pos hn, if_pos hn]
    rfl
  · obtain ⟨d, ds, hds, hd⟩ := exists_digitsOf_cons hn
    have hlt : ∀ d ∈ digitsOf n, d < 10 := fun d => lt_ten_of_mem_digitsOf
    have hzero : digitChar d ≠ '0' := by
      have hten := hlt d (hds ▸ List.mem_cons_self)
      interval_cases d <;> first | exact absurd rfl hd | decide
    have hread := digits_map_digitChar hlt h
    rw [natChars, wholeDigits, if_neg hn, if_neg hn]
    rw [hds, List.map_cons, List.cons_append] at hread ⊢
    rw [wholeDigits?]
    · rw [digits1?, hread]
    · exact fun rest heq => hzero (List.cons.inj heq).1

theorem absorb_append {s t : Nat} {ds : List Nat} (h : Numeral.absorb s ds = (t, []))
    (es : List Nat) : Numeral.absorb s (ds ++ es) = Numeral.absorb t es := by
  induction ds generalizing s with
  | nil =>
    obtain rfl := (Prod.mk.inj h).1
    rfl
  | cons d ds ih =>
    rw [Numeral.absorb] at h
    split at h
    · rename_i hfits
      rw [List.cons_append, Numeral.absorb, if_pos hfits, ih h]
    · cases h

theorem absorb_wholeDigits {n : Nat} (h : n < 2 ^ 64) :
    Numeral.absorb 0 (wholeDigits n) = (n, []) := by
  have hdigits : Numeral.absorb 0 (digitsOf n) = (n, []) := by
    induction n using Nat.strong_induction_on with
    | _ n ih =>
      by_cases hn : n = 0
      · rw [hn, digitsOf, if_pos rfl, Numeral.absorb]
      · have hten := ih (n / 10) (Nat.div_lt_self (Nat.pos_of_ne_zero hn) (by decide)) (by omega)
        have hwhole : n / 10 * 10 + n % 10 = n := by omega
        have hfits : n < Nat.pow 2 64 := h
        rw [digitsOf_of_pos hn, absorb_append hten, Numeral.absorb, hwhole, if_pos hfits,
          Numeral.absorb]
  by_cases hn : n = 0
  · rw [wholeDigits, if_pos hn, hn]
    rfl
  · rw [wholeDigits, if_neg hn, hdigits]

/-- The numbers that are read back: whole ones of 64 bits. -/
def Number.Exact : Number → Prop
  | .int i => -2 ^ 63 ≤ i ∧ i < 2 ^ 64
  | .float _ => False

def numeralOf (i : Int) : Numeral :=
  { negative := decide (i < 0), whole := wholeDigits i.natAbs, fraction := [], exponent := none }

theorem magnitude?_natChars (negative : Bool) (n : Nat) {after : List Char}
    (h : EndsNumeral after) : magnitude? negative (natChars n ++ after) =
      some ({ negative, whole := wholeDigits n, fraction := [], exponent := none }, after) := by
  have hfraction : fractionDigits? after = some ([], after) := by
    cases after with
    | nil => rfl
    | cons c rest =>
      rw [fractionDigits?]
      rintro rest ⟨⟩
      exact (h '.' rfl).2.1 rfl
  have hexponent : exponent? after = some (none, after) := by
    cases after with
    | nil => rfl
    | cons c rest =>
      obtain ⟨-, -, he, hE⟩ := h c rfl
      exact if_neg (not_or.2 ⟨he, hE⟩)
  simp only [magnitude?, wholeDigits?_natChars n h, Option.bind_some, hfraction, hexponent,
    Option.map_some]

/-- What the text of a number begins with. -/
theorem exists_natChars_cons (n : Nat) : ∃ d cs, d < 10 ∧ natChars n = digitChar d :: cs := by
  by_cases hn : n = 0
  · exact ⟨0, [], by decide, by rw [natChars, if_pos hn]; rfl⟩
  · obtain ⟨d, ds, hds, -⟩ := exists_digitsOf_cons hn
    exact ⟨d, ds.map digitChar, lt_ten_of_mem_digitsOf (hds ▸ List.mem_cons_self),
      by rw [natChars, if_neg hn, hds, List.map_cons]⟩

theorem numeral?_chars (i : Int) {after : List Char} (h : EndsNumeral after) :
    numeral? ((Number.int i).chars ++ after) = some (numeralOf i, after) := by
  rw [Number.chars, numeralOf]
  by_cases hi : i < 0
  · rw [if_pos hi, List.cons_append, numeral?, magnitude?_natChars true _ h, decide_eq_true hi]
  · obtain ⟨d, cs, hd, hcs⟩ := exists_natChars_cons i.natAbs
    have hread := magnitude?_natChars false i.natAbs h
    rw [if_neg hi, decide_eq_false hi]
    rw [hcs, List.cons_append] at hread ⊢
    have hsign : digitChar d ≠ '-' := by interval_cases d <;> decide
    rw [numeral?, hread]
    exact fun rest heq => hsign (List.cons.inj heq).1

theorem value?_numeralOf {i : Int} (h : (Number.int i).Exact) :
    (numeralOf i).value? = some (.int i) := by
  obtain ⟨hlow, hhigh⟩ := h
  have habsorb : Numeral.absorb 0 (wholeDigits i.natAbs) = (i.natAbs, []) :=
    absorb_wholeDigits (by omega)
  rw [Numeral.value?, numeralOf, habsorb]
  by_cases hi : i < 0
  · have hpos : 0 < i.natAbs ∧ i.natAbs ≤ Nat.pow 2 63 := by
      rw [show Nat.pow 2 63 = 9223372036854775808 from rfl]
      omega
    have hneg : -(i.natAbs : Int) = i := by omega
    simp only [hi, hpos, hneg, List.isEmpty_nil, Option.isNone_none, decide_true, not_true,
      and_false, and_self, if_false, if_true]
  · have hnat : (i.natAbs : Int) = i := by omega
    simp only [hi, hnat, List.isEmpty_nil, Option.isNone_none, decide_false, Bool.false_eq_true,
      not_false_eq_true, and_self, if_true]

/-! ## Strings -/

def pieceOf (c : Char) : Piece :=
  if c.toNat < 0x20 ∧ c ∉ ['\x08', '\x0c', '\n', '\r', '\t'] then .unit c.toNat else .char c

theorem hexValue?_hexChar {d : Nat} (h : d < 16) : hexValue? (hexChar d) = some d := by
  interval_cases d <;> decide

theorem pieces?_escapeChar (c : Char) (cs : List Char) :
    pieces? (escapeChar c ++ cs) =
      (pieces? cs).map fun (ps, after) => (pieceOf c :: ps, after) := by
  unfold escapeChar
  split
  · subst c; rfl
  split
  · subst c; rfl
  split
  · subst c; rfl
  split
  · subst c; rfl
  split
  · subst c; rfl
  split
  · subst c; rfl
  split
  · subst c; rfl
  rename_i hquote hbackslash hb hf hn hr ht
  split
  · rename_i hcontrol
    have hpiece : pieceOf c = .unit c.toNat := if_pos ⟨hcontrol, by simp [hb, hf, hn, hr, ht]⟩
    have hcode : hex4? '0' '0' (hexChar (c.toNat / 16)) (hexChar (c.toNat % 16)) =
        some c.toNat := by
      have hzero : hexValue? '0' = some 0 := by decide
      have hwhole : (0 * 16 + 0) * 16 + c.toNat / 16 = c.toNat / 16 := by omega
      have hwhole' : c.toNat / 16 * 16 + c.toNat % 16 = c.toNat := by omega
      simp only [hex4?, hzero, hexValue?_hexChar (by omega : c.toNat / 16 < 16),
        hexValue?_hexChar (by omega : c.toNat % 16 < 16), Option.bind_some, Option.map_some,
        hwhole, hwhole']
    simp only [List.cons_append, List.nil_append, pieces?, hcode, Option.bind_some, hpiece]
  · rename_i hvisible
    have hpiece : pieceOf c = .char c := if_neg fun h => hvisible h.1
    rw [List.singleton_append, pieces?, if_neg (not_or.2 ⟨hvisible, hbackslash⟩), hpiece]
    · exact hquote
    · exact fun _ _ _ _ _ heq _ => hbackslash heq
    · exact fun _ _ heq _ => hbackslash heq

theorem join?_unit {n : Nat} (h : n < 0x20) (ps : List Piece) :
    join? (.unit n :: ps) = (join? ps).map (Char.ofNat n :: ·) := by
  have hhigh : ¬(0xD800 ≤ n ∧ n < 0xDC00) := by omega
  have hlow : ¬(0xDC00 ≤ n ∧ n < 0xE000) := by omega
  have hany : ¬(0xD800 ≤ n ∧ n < 0xE000) := by omega
  cases ps with
  | nil => simp only [join?, if_neg hany]
  | cons p ps =>
    cases p with
    | char c => simp only [join?, if_neg hany]
    | unit m => rw [join?, if_neg hhigh, if_neg hlow]

theorem join?_pieceOf (cs : List Char) : join? (cs.map pieceOf) = some cs := by
  induction cs with
  | nil => rfl
  | cons c cs ih =>
    rw [List.map_cons, pieceOf]
    split
    · rename_i hcontrol
      rw [join?_unit hcontrol.1, ih, Char.ofNat_toNat, Option.map_some]
    · rw [join?, ih, Option.map_some]

/-- A quoted string is read as the string. -/
theorem pieces?_quoted (s : String) (after : List Char) :
    pieces? (s.toList.flatMap escapeChar ++ '"' :: after) =
      some (s.toList.map pieceOf, after) := by
  induction s.toList with
  | nil => rfl
  | cons c cs ih =>
    rw [List.flatMap_cons, List.append_assoc, pieces?_escapeChar, ih]
    rfl

theorem string_quoted (room : Nat) (s : String) :
    (Reading.strict room).string (s.toList.map pieceOf) = some s := by
  show (join? (s.toList.map pieceOf)).map String.ofList = some s
  rw [join?_pieceOf, Option.map_some, String.ofList_toList]

/-! ## Values -/

mutual

/-- The numbers of the value are read back, and arrays and objects nest no deeper than a bound. -/
def Plain : Nat → Json → Prop
  | _, .null => True
  | _, .bool _ => True
  | _, .number n => n.Exact
  | _, .string _ => True
  | 0, .array _ => False
  | depth + 1, .array items => PlainItems depth items
  | 0, .object _ => False
  | depth + 1, .object members => PlainMembers depth members

def PlainItems : Nat → List Json → Prop
  | _, [] => True
  | depth, v :: rest => Plain depth v ∧ PlainItems depth rest

def PlainMembers : Nat → List (String × Json) → Prop
  | _, [] => True
  | depth, (_, v) :: rest => Plain depth v ∧ PlainMembers depth rest

end

theorem skipBlanks_cons {c : Char} (h : c ∉ [' ', '\n', '\t', '\r']) (cs : List Char) :
    skipBlanks (c :: cs) = c :: cs := by
  rw [skipBlanks, if_neg (by simpa using h)]

/-- What the text of a plain value begins with is no blank and ends nothing. -/
theorem exists_chars_cons {depth : Nat} {v : Json} (h : Plain depth v) :
    ∃ c cs, v.chars = c :: cs ∧ c ∉ [' ', '\n', '\t', '\r'] ∧ c ≠ ']' := by
  cases v with
  | null => exact ⟨'n', _, rfl, by decide, by decide⟩
  | bool b => cases b <;> exact ⟨_, _, rfl, by decide, by decide⟩
  | string s => exact ⟨'"', _, rfl, by decide, by decide⟩
  | array items =>
    cases items with
    | nil => exact ⟨'[', [']'], by rw [chars], by decide, by decide⟩
    | cons v rest => exact ⟨'[', v.chars ++ itemChars rest, by rw [chars]; rfl, by decide, by decide⟩
  | object members =>
    cases members with
    | nil => exact ⟨'\x7b', ['\x7d'], by rw [chars], by decide, by decide⟩
    | cons m rest =>
      exact ⟨'\x7b', quote m.1 ++ ':' :: m.2.chars ++ memberChars rest, by rw [chars]; rfl,
        by decide, by decide⟩
  | number n =>
    cases n with
    | float bits => cases depth <;> cases h
    | int i =>
      by_cases hi : i < 0
      · exact ⟨'-', _, by rw [chars, Number.chars, if_pos hi], by decide, by decide⟩
      · obtain ⟨d, cs, hd, hcs⟩ := exists_natChars_cons i.natAbs
        refine ⟨digitChar d, cs, by rw [chars, Number.chars, if_neg hi, hcs], ?_, ?_⟩ <;>
          interval_cases d <;> decide

/-! ### Values, one level deep -/

section

variable {reading : Reading} {room depth : Nat} {shape : Shape}

theorem value?_string {s : String} (hs : reading.string (s.toList.map pieceOf) = some s)
    (after : List Char) :
    value? reading room depth shape (quote s ++ after) = some (.string s, after) := by
  have htext : quote s ++ after = '"' :: (s.toList.flatMap escapeChar ++ '"' :: after) := by
    simp [quote]
  rw [htext, value?, skipBlanks_cons (by decide)]
  simp only [pieces?_quoted, Option.bind_some, hs, Option.map_some]

theorem value?_number {i : Int} (hnumber : reading.number (numeralOf i) = some (.int i))
    {after : List Char} (h : EndsNumeral after) :
    value? reading room depth shape ((Number.int i).chars ++ after) =
      some (.number (.int i), after) := by
  have hread := numeral?_chars i h
  have hfirst : ∃ c cs, (Number.int i).chars = c :: cs ∧
      c ∈ ['-', '0', '1', '2', '3', '4', '5', '6', '7', '8', '9'] := by
    by_cases hi : i < 0
    · exact ⟨'-', _, by rw [Number.chars, if_pos hi], by decide⟩
    · obtain ⟨d, cs, hd, hcs⟩ := exists_natChars_cons i.natAbs
      refine ⟨digitChar d, cs, by rw [Number.chars, if_neg hi, hcs], ?_⟩
      interval_cases d <;> decide
  obtain ⟨c, cs, hcs, hc⟩ := hfirst
  rw [hcs, List.cons_append] at hread ⊢
  have hvalue : value? reading room depth shape (c :: (cs ++ after)) =
      (numeral? (c :: (cs ++ after))).bind fun x =>
        (reading.number x.1).map fun n => (.number n, x.2) := by
    simp only [List.mem_cons, List.not_mem_nil, or_false] at hc
    rcases hc with rfl | rfl | rfl | rfl | rfl | rfl | rfl | rfl | rfl | rfl | rfl <;>
      (rw [value?, skipBlanks_cons (by decide)]; rfl)
  rw [hvalue, hread, Option.bind_some]
  simp only [hnumber, Option.map_some]

theorem value?_bracket (cs : List Char) :
    value? reading room (depth + 1) shape ('[' :: cs) =
      match skipBlanks cs with
      | ']' :: cs => some (.array [], cs)
      | cs => (items? (fun i => value? reading room depth (shape.item i)) room 0 cs).map
        fun (vs, cs) => (.array vs, cs) := by
  rw [value?, skipBlanks_cons (by decide)]
  rfl

theorem value?_brace (cs : List Char) :
    value? reading room (depth + 1) shape ('\x7b' :: cs) =
      match skipBlanks cs with
      | '\x7d' :: cs => some (.object [], cs)
      | cs => (members? reading.string (fun key cs =>
          match shape.member key with
          | some s => (value? reading room depth s cs).map fun (v, cs) => ([(key, v)], cs)
          | none => (reading.skip cs).map fun cs => ([], cs)) room cs).map
        fun (ms, cs) => (.object ms, cs) := by
  rw [value?, skipBlanks_cons (by decide)]
  rfl

theorem value?_array {c : Char} (hblank : c ∉ [' ', '\n', '\t', '\r']) (hend : c ≠ ']')
    (cs : List Char) :
    value? reading room (depth + 1) shape ('[' :: c :: cs) =
      (items? (fun i => value? reading room depth (shape.item i)) room 0 (c :: cs)).map
        fun (vs, cs) => (.array vs, cs) := by
  rw [value?_bracket, skipBlanks_cons hblank]
  split
  · rename_i heq
    exact absurd (List.cons.inj heq).1 hend
  · rfl

theorem value?_object (cs : List Char) :
    value? reading room (depth + 1) shape ('\x7b' :: '"' :: cs) =
      (members? reading.string (fun key cs =>
        match shape.member key with
        | some s => (value? reading room depth s cs).map fun (v, cs) => ([(key, v)], cs)
        | none => (reading.skip cs).map fun cs => ([], cs)) room ('"' :: cs)).map
        fun (ms, cs) => (.object ms, cs) := by
  rw [value?_brace, skipBlanks_cons (by decide)]
  rfl

theorem key?_quote {key : String} (hkey : reading.string (key.toList.map pieceOf) = some key)
    (after : List Char) : key? reading.string (quote key ++ ':' :: after) = some (key, after) := by
  have htext : quote key ++ ':' :: after =
      '"' :: (key.toList.flatMap escapeChar ++ '"' :: ':' :: after) := by simp [quote]
  rw [htext, key?, skipBlanks_cons (by decide)]
  simp only [pieces?_quoted, Option.bind_some, hkey]
  rw [skipBlanks_cons (by decide)]
  rfl

end

/-! ### Items and members -/

theorem plainItems_iff {depth : Nat} {items : List Json} :
    PlainItems depth items ↔ ∀ v ∈ items, Plain depth v := by
  induction items with
  | nil => simp [PlainItems]
  | cons v rest ih => simp [PlainItems, ih]

theorem plainMembers_iff {depth : Nat} {members : List (String × Json)} :
    PlainMembers depth members ↔ ∀ m ∈ members, Plain depth m.2 := by
  induction members with
  | nil => simp [PlainMembers]
  | cons m rest ih => simp [PlainMembers, ih]

theorem length_itemChars (items : List Json) :
    items.length < (itemChars items).length ∧
      ∀ v ∈ items, v.chars.length < (itemChars items).length := by
  induction items with
  | nil => exact ⟨by rw [itemChars]; decide, nofun⟩
  | cons v rest ih =>
    have hlength : (itemChars (v :: rest)).length =
        v.chars.length + (itemChars rest).length + 1 := by
      rw [itemChars, List.cons_append, List.length_cons, List.length_append]
    refine ⟨by rw [List.length_cons]; omega, List.forall_mem_cons.2 ⟨by omega, fun w hw => ?_⟩⟩
    have hrest := ih.2 w hw
    omega

theorem length_memberChars (members : List (String × Json)) :
    members.length < (memberChars members).length ∧
      ∀ m ∈ members, m.2.chars.length < (memberChars members).length := by
  induction members with
  | nil => exact ⟨by rw [memberChars]; decide, nofun⟩
  | cons m rest ih =>
    have hlength : (memberChars (m :: rest)).length =
        (quote m.1).length + m.2.chars.length + (memberChars rest).length + 2 := by
      rw [memberChars]
      simp only [List.cons_append, List.length_cons, List.length_append]
      omega
    refine ⟨by rw [List.length_cons]; omega, List.forall_mem_cons.2 ⟨by omega, fun w hw => ?_⟩⟩
    have hrest := ih.2 w hw
    omega

theorem endsNumeral_cons {c : Char} (h : c.isDigit = false ∧ c ≠ '.' ∧ c ≠ 'e' ∧ c ≠ 'E')
    (cs : List Char) : EndsNumeral (c :: cs) := by
  intro d hd
  obtain rfl := Option.mem_some_iff.1 hd
  exact h

theorem endsNumeral_itemChars (items : List Json) (after : List Char) :
    EndsNumeral (itemChars items ++ after) := by
  cases items with
  | nil => rw [itemChars]; exact endsNumeral_cons (by decide) _
  | cons v rest => rw [itemChars]; exact endsNumeral_cons (by decide) _

theorem endsNumeral_memberChars (members : List (String × Json)) (after : List Char) :
    EndsNumeral (memberChars members ++ after) := by
  cases members with
  | nil => rw [memberChars]; exact endsNumeral_cons (by decide) _
  | cons m rest => rw [memberChars]; exact endsNumeral_cons (by decide) _

/-- Items are read if each is. -/
theorem items?_itemChars {item : Nat → List Char → Option (Json × List Char)} {v : Json}
    {rest : List Json} (h : ∀ w ∈ v :: rest, ∀ i after, EndsNumeral after →
      item i (w.chars ++ after) = some (w, after)) {room : Nat} (hroom : rest.length < room)
    (index : Nat) (after : List Char) :
    items? item room index (v.chars ++ (itemChars rest ++ after)) = some (v :: rest, after) := by
  induction rest generalizing v room index with
  | nil =>
    obtain ⟨room, rfl⟩ := Nat.exists_eq_add_one_of_ne_zero (Nat.ne_of_gt hroom)
    rw [items?, h v List.mem_cons_self index _ (endsNumeral_itemChars [] after), Option.bind_some,
      itemChars]
    dsimp only
    rw [List.singleton_append, skipBlanks_cons (by decide)]
    rfl
  | cons w rest ih =>
    obtain ⟨room, rfl⟩ := Nat.exists_eq_add_one_of_ne_zero (Nat.ne_of_gt (Nat.zero_lt_of_lt hroom))
    have hrest := ih (fun w' hw' => h w' (List.mem_cons_of_mem _ hw'))
      (Nat.lt_of_succ_lt_succ hroom) (index + 1)
    rw [items?, h v List.mem_cons_self index _ (endsNumeral_itemChars _ after), Option.bind_some,
      itemChars]
    dsimp only
    rw [List.cons_append, List.cons_append, List.append_assoc, skipBlanks_cons (by decide)]
    simp only [hrest, Option.map_some]

/-- Members are read if the value of each is. -/
theorem members?_memberChars {string : List Piece → Option String}
    {member : String → List Char → Option (List (String × Json) × List Char)}
    {m : String × Json} {rest : List (String × Json)}
    (hkey : ∀ (key : String) after, key? string (quote key ++ ':' :: after) = some (key, after))
    (h : ∀ m' ∈ m :: rest, ∀ after, EndsNumeral after →
      member m'.1 (m'.2.chars ++ after) = some ([m'], after)) {room : Nat}
    (hroom : rest.length < room) (after : List Char) :
    members? string member room (quote m.1 ++ ':' :: (m.2.chars ++ (memberChars rest ++ after))) =
      some (m :: rest, after) := by
  induction rest generalizing m room with
  | nil =>
    obtain ⟨room, rfl⟩ := Nat.exists_eq_add_one_of_ne_zero (Nat.ne_of_gt hroom)
    rw [members?, hkey, Option.bind_some]
    dsimp only
    rw [h m List.mem_cons_self _ (endsNumeral_memberChars [] after), Option.bind_some, memberChars]
    dsimp only
    rw [List.singleton_append, skipBlanks_cons (by decide)]
    rfl
  | cons w rest ih =>
    obtain ⟨room, rfl⟩ := Nat.exists_eq_add_one_of_ne_zero (Nat.ne_of_gt (Nat.zero_lt_of_lt hroom))
    have hrest := ih (fun w' hw' => h w' (List.mem_cons_of_mem _ hw'))
      (Nat.lt_of_succ_lt_succ hroom)
    rw [members?, hkey, Option.bind_some]
    dsimp only
    rw [h m List.mem_cons_self _ (endsNumeral_memberChars _ after), Option.bind_some, memberChars]
    dsimp only
    simp only [List.cons_append, List.append_assoc]
    rw [skipBlanks_cons (by decide)]
    simp only [hrest, Option.map_some, List.nil_append]

/-- Items are shorter than the text of their array, and there are not more of them. -/
theorem length_array (items : List Json) :
    items.length < (array items).chars.length ∧
      ∀ v ∈ items, v.chars.length < (array items).chars.length := by
  cases items with
  | nil => exact ⟨by rw [chars]; decide, nofun⟩
  | cons v rest =>
    have hlength : (array (v :: rest)).chars.length =
        v.chars.length + (itemChars rest).length + 1 := by
      rw [chars, List.cons_append, List.length_cons, List.length_append]
    obtain ⟨hcount, hrest⟩ := length_itemChars rest
    refine ⟨by rw [List.length_cons]; omega, List.forall_mem_cons.2 ⟨by omega, fun w hw => ?_⟩⟩
    have hshort := hrest w hw
    omega

/-- And so it is for the members of an object. -/
theorem length_object (members : List (String × Json)) :
    members.length < (object members).chars.length ∧
      ∀ m ∈ members, m.2.chars.length < (object members).chars.length := by
  cases members with
  | nil => exact ⟨by rw [chars]; decide, nofun⟩
  | cons m rest =>
    have hlength : (object (m :: rest)).chars.length =
        (quote m.1).length + m.2.chars.length + (memberChars rest).length + 2 := by
      rw [chars]
      simp only [List.cons_append, List.length_cons, List.length_append]
      omega
    obtain ⟨hcount, hrest⟩ := length_memberChars rest
    refine ⟨by rw [List.length_cons]; omega, List.forall_mem_cons.2 ⟨by omega, fun w hw => ?_⟩⟩
    have hshort := hrest w hw
    omega

/-- The text of a value is read as the value, whatever comes after it. -/
def ReadBack (room depth : Nat) (v : Json) : Prop :=
  ∀ after, EndsNumeral after →
    value? (.strict room) room depth .whole (v.chars ++ after) = some (v, after)

theorem readBack_array {room depth : Nat} {items : List Json}
    (hroom : (array items).chars.length ≤ room) (hplain : ∀ v ∈ items, Plain depth v)
    (h : ∀ v ∈ items, ReadBack room depth v) : ReadBack room (depth + 1) (.array items) := by
  intro after hafter
  cases items with
  | nil =>
    rw [chars, List.cons_append, value?_bracket, List.singleton_append,
      skipBlanks_cons (by decide)]
    rfl
  | cons v rest =>
    obtain ⟨c, cs, hcs, hblank, hend⟩ := exists_chars_cons (hplain v List.mem_cons_self)
    have hcount : rest.length < room :=
      (Nat.lt_of_succ_lt (length_array (v :: rest)).1).trans_le hroom
    have hall := items?_itemChars (fun w hw _ => h w hw) hcount 0 after
    rw [chars, List.cons_append, List.cons_append, List.append_assoc]
    rw [hcs, List.cons_append] at hall ⊢
    rw [value?_array hblank hend]
    exact congrArg (Option.map fun (vs, cs) => (Json.array vs, cs)) hall

theorem readBack_object {room depth : Nat} {members : List (String × Json)}
    (hroom : (object members).chars.length ≤ room)
    (h : ∀ m ∈ members, ReadBack room depth m.2) :
    ReadBack room (depth + 1) (.object members) := by
  intro after hafter
  cases members with
  | nil =>
    rw [chars, List.cons_append, value?_brace, List.singleton_append,
      skipBlanks_cons (by decide)]
    rfl
  | cons m rest =>
    have hread : ∀ m' ∈ m :: rest, ∀ after, EndsNumeral after →
        (value? (.strict room) room depth .whole (m'.2.chars ++ after)).map
          (fun (v, cs) => ([(m'.1, v)], cs)) = some ([m'], after) := by
      intro m' hm after hafter
      rw [h m' hm after hafter]
      rfl
    have hcount : rest.length < room :=
      (Nat.lt_of_succ_lt (length_object (m :: rest)).1).trans_le hroom
    have hall : members? (Reading.strict room).string
        (fun key cs => (value? (.strict room) room depth .whole cs).map fun (v, cs) =>
          ([(key, v)], cs)) room
        (quote m.1 ++ ':' :: (m.2.chars ++ (memberChars rest ++ after))) =
          some (m :: rest, after) :=
      members?_memberChars (fun key => key?_quote (string_quoted room key)) hread hcount after
    rw [chars]
    simp only [List.cons_append, List.append_assoc]
    rw [quote, List.cons_append, List.cons_append] at hall ⊢
    rw [value?_object]
    exact congrArg (Option.map fun (ms, cs) => (Json.object ms, cs)) hall

/-- The text of a plain value is read as the value. -/
theorem readBack_of_plain {v : Json} {depth room : Nat} (h : Plain depth v)
    (hroom : v.chars.length ≤ room) : ReadBack room depth v := by
  -- on the length of the text: those of items and members are shorter
  induction hn : v.chars.length using Nat.strong_induction_on generalizing v depth with
  | _ n ih =>
    subst hn
    cases v with
    | null => intro after hafter; rw [value?]; rfl
    | bool b => intro after hafter; cases b <;> (rw [value?]; rfl)
    | string s =>
      intro after hafter
      rw [chars]
      exact value?_string (string_quoted room s) after
    | number n =>
      intro after hafter
      cases n with
      | float bits => cases depth <;> cases h
      | int i =>
        have hexact : (Number.int i).Exact := by cases depth <;> exact h
        rw [chars]
        exact value?_number (value?_numeralOf hexact) hafter
    | array items =>
      cases depth with
      | zero => cases h
      | succ depth =>
        have hplain := plainItems_iff.1 h
        refine readBack_array hroom hplain fun v hv => ?_
        have hshort := (length_array items).2 v hv
        exact ih _ hshort (hplain v hv) (hshort.le.trans hroom) rfl
    | object members =>
      cases depth with
      | zero => cases h
      | succ depth =>
        refine readBack_object hroom fun m hm => ?_
        have hshort := (length_object members).2 m hm
        exact ih _ hshort (plainMembers_iff.1 h m hm) (hshort.le.trans hroom) rfl

/-! ## Texts -/

/-- The text of a plain value is read as the value, with the members of its objects in their
places. -/
theorem parseAs?_render {v : Json} (h : Plain maxDepth v) : parseAs? .whole v.render = some v := by
  have hend : EndsNumeral [] := nofun
  have hread := readBack_of_plain h le_rfl [] hend
  rw [List.append_nil] at hread
  rw [parseAs?, render, String.toList_ofList, hread]
  rfl

/-- The text of a plain value in canonical form is read as the value. -/
theorem parse?_render {v : Json} (h : Plain maxDepth v) (hcanonical : v.Canonical) :
    parse? v.render = some v := by
  rw [parse?, parseAs?_render h, Option.map_some, normalize_of_canonical v hcanonical]

end Json

/-- A response with the text of a plain value for its body is read as that value. -/
theorem Http.Response.json?_render {v : Json} (h : v.Plain Json.maxDepth) (status : Nat) :
    Response.json? .whole { status, body := some (Text.utf8Bytes v.render) } = some v := by
  rw [json?, Option.bind_some, Text.text?_eq_some_iff.2 rfl, Option.bind_some,
    Json.parseAs?_render h]

end NetSweep
