import NetSweep.Http.Url
import NetSweep.Proofs.PercentEscapes
import NetSweep.Proofs.RequestPaths

/-!
# Parameters of a query

A query is read as parameters: it is parted at its ampersands, each part at its first equals sign,
and in names and values a plus sign is a space and escapes are bytes of UTF-8.  So read, parameters
that are added to a query come after those that are there, with the names and values they had.
-/

namespace NetSweep.Http

open Text (utf8 splitAt)

/-! ## Reading -/

def plusAsSpace (c : Char) : Char := if c = '+' then ' ' else c

def decodeForm (cs : List Char) : String := Text.textLossy (percentDecode (cs.map plusAsSpace))

def decodePair (cs : List Char) : String × String :=
  (decodeForm (cs.takeWhile (· ≠ '=')), decodeForm (cs.dropWhile (· ≠ '=')).tail)

/-- The parameters of a text; parts without text are none. -/
def decodePairs (cs : List Char) : List (String × String) :=
  ((splitAt (· = '&') cs).filter (· ≠ [])).map decodePair

def Url.pairs (u : Url) : List (String × String) := decodePairs (u.query.getD "").toList

/-! ## Names and values -/

/-- The characters that the text of a name or value is made of. -/
theorem mem_encodeForm {c : Char} {cs : List Char} (h : c ∈ encodeForm cs) :
    c = '+' ∨ c = '%' ∨ keptInForm c = true := by
  have hdigit : ∀ d < 16, keptInForm (upperHex d) = true := by decide
  obtain ⟨d, -, hc⟩ := List.mem_flatMap.1 h
  split at hc
  · exact .inl (List.mem_singleton.1 hc)
  split at hc
  · rename_i hkept
    exact .inr (.inr (List.mem_singleton.1 hc ▸ hkept))
  · obtain ⟨b, -, hc⟩ := List.mem_flatMap.1 hc
    have hb : b.toNat < 256 := b.toNat_lt
    simp only [percentByte, List.mem_cons, List.not_mem_nil, or_false] at hc
    rcases hc with rfl | rfl | rfl
    · exact .inr (.inl rfl)
    · exact .inr (.inr (hdigit _ (by omega)))
    · exact .inr (.inr (hdigit _ (by omega)))

theorem not_mem_encodeForm {c : Char} (hplus : c ≠ '+') (hpercent : c ≠ '%')
    (hkept : keptInForm c = false) (cs : List Char) : c ∉ encodeForm cs := fun h => by
  rcases mem_encodeForm h with h | h | h
  · exact hplus h
  · exact hpercent h
  · rw [hkept] at h
    cases h

theorem map_plusAsSpace {cs : List Char} (h : '+' ∉ cs) : cs.map plusAsSpace = cs := by
  refine (List.map_congr_left fun c hc => if_neg ?_).trans (List.map_id cs)
  rintro rfl
  exact h hc

theorem plus_not_mem_percentBytes (bytes : List UInt8) : '+' ∉ bytes.flatMap percentByte := by
  have hdigit : ∀ d < 16, upperHex d ≠ '+' := by decide
  intro h
  obtain ⟨b, -, hb⟩ := List.mem_flatMap.1 h
  have hlt : b.toNat < 256 := b.toNat_lt
  simp only [percentByte, List.mem_cons, List.not_mem_nil, or_false] at hb
  rcases hb with hb | hb | hb
  · cases hb
  · exact hdigit _ (by omega) hb.symm
  · exact hdigit _ (by omega) hb.symm

theorem percentDecode_encodeForm (cs : List Char) :
    percentDecode ((encodeForm cs).map plusAsSpace) = utf8 cs := by
  induction cs with
  | nil => rfl
  | cons c cs ih =>
    have hsplit : encodeForm (c :: cs) = (if c = ' ' then ['+'] else
        if keptInForm c then [c] else (utf8 [c]).flatMap percentByte) ++ encodeForm cs :=
      List.flatMap_cons
    rw [hsplit, List.map_append, utf8_cons c cs]
    split
    · rename_i hspace
      subst hspace
      exact (percentDecode_cons rfl).trans (congrArg _ ih)
    split
    · rename_i hkept
      have hplus : plusAsSpace c = c := if_neg fun h => by
        subst h
        revert hkept
        decide
      have hpercent : c ≠ '%' := fun h => by
        subst h
        revert hkept
        decide
      rw [List.map_singleton, hplus, List.singleton_append,
        percentDecode_cons (by simp [hpercent]), ih]
    · rw [map_plusAsSpace (plus_not_mem_percentBytes _), percentDecode_percentBytes, ih]

/-- A name or value is read back. -/
theorem decodeForm_encodeForm (s : String) : decodeForm (encodeForm s.toList) = s := by
  rw [decodeForm, percentDecode_encodeForm, Text.textLossy, Text.decodeLossy_utf8,
    String.ofList_toList]

/-! ## Parameters -/

def encodePair (pair : String × String) : List Char :=
  encodeForm pair.1.toList ++ '=' :: encodeForm pair.2.toList

theorem decodePair_encodePair (pair : String × String) : decodePair (encodePair pair) = pair := by
  have hname : ∀ c ∈ encodeForm pair.1.toList, decide (c ≠ '=') = true := by
    intro c hc
    refine decide_eq_true ?_
    rintro rfl
    exact not_mem_encodeForm (by decide) (by decide) (by decide) _ hc
  rw [decodePair, encodePair, List.takeWhile_append_of_pos hname,
    List.dropWhile_append_of_pos hname, List.takeWhile_cons_of_neg (by decide),
    List.dropWhile_cons_of_neg (by decide), List.append_nil, List.tail_cons,
    decodeForm_encodeForm, decodeForm_encodeForm]

theorem encodePairs_cons (pair : String × String) (pairs : List (String × String)) :
    encodePairs (pair :: pairs) =
      encodePair pair ++ if pairs = [] then [] else '&' :: encodePairs pairs := by
  cases pairs with
  | nil => simp [encodePairs, encodePair]
  | cons next pairs => simp [encodePairs, encodePair]

theorem splitAt_encodePair (pair : String × String) :
    splitAt (· = '&') (encodePair pair) = [encodePair pair] := by
  refine Text.splitAt_of_none fun c hc => decide_eq_false ?_
  rintro rfl
  rcases List.mem_append.1 hc with hc | hc
  · exact not_mem_encodeForm (by decide) (by decide) (by decide) _ hc
  · rcases List.mem_cons.1 hc with hc | hc
    · cases hc
    · exact not_mem_encodeForm (by decide) (by decide) (by decide) _ hc

theorem decodePairs_encodePair (pair : String × String) :
    decodePairs (encodePair pair) = [pair] := by
  rw [decodePairs, splitAt_encodePair, List.filter_cons_of_pos (by simp [encodePair]),
    List.filter_nil, List.map_singleton, decodePair_encodePair]

theorem decodePairs_append (cs ds : List Char) :
    decodePairs (cs ++ '&' :: ds) = decodePairs cs ++ decodePairs ds := by
  rw [decodePairs, Text.splitAt_append_cons (by decide), List.filter_append, List.map_append]
  rfl

/-- Parameters are read back. -/
theorem decodePairs_encodePairs (pairs : List (String × String)) :
    decodePairs (encodePairs pairs) = pairs := by
  induction pairs with
  | nil => rfl
  | cons pair pairs ih =>
    rw [encodePairs_cons]
    split
    · rename_i hnil
      rw [List.append_nil, decodePairs_encodePair, hnil]
    · rw [decodePairs_append, decodePairs_encodePair, ih, List.singleton_append]

/-- Parameters that are added come after those that are there. -/
theorem Url.pairs_withPairs (u : Url) (pairs : List (String × String)) :
    (u.withPairs pairs).pairs = u.pairs ++ pairs := by
  cases pairs with
  | nil =>
    rw [withPairs, List.isEmpty_nil, if_pos rfl, List.append_nil]
    split
    · rename_i hempty
      rw [Url.pairs, Url.pairs, hempty]
      rfl
    · rfl
  | cons pair pairs =>
    have hread := decodePairs_encodePairs (pair :: pairs)
    rw [withPairs, List.isEmpty_cons, if_neg Bool.false_ne_true, Url.pairs, Url.pairs]
    dsimp only [Option.getD_some]
    split
    · rename_i hnone
      rw [hnone, String.toList_ofList, hread]
      rfl
    · rename_i hempty
      rw [hempty, String.toList_ofList, hread]
      rfl
    · rename_i q _ hquery
      have hmark : "&".toList = ['&'] := rfl
      rw [hquery, String.toList_append, String.toList_append, hmark, List.append_assoc,
        List.singleton_append, decodePairs_append, String.toList_ofList, hread]
      rfl

/-- What a value holds beside letters and digits comes back. -/
example : decodePairs (encodePairs [("cursor", "a b&c=d+é%/?")]) =
    [("cursor", "a b&c=d+é%/?")] := by decide +kernel

end NetSweep.Http
