import Mathlib.Data.List.TakeWhile
import NetSweep.Manager

/-!
# Where requests go

A URL of the client is the base that it was given, the root of an API, and one segment after
another: fixed ones of a collection, and in between the ids.  An id that holds no backslash stays
one segment.  It may still be one that moves, such as `..`, but before every id stands a fixed
segment, and this is all that it takes away: the path stays below the API's root.
-/

namespace NetSweep

namespace Text

variable {p : Char → Bool} {xs ys : List Char} {c : Char}

theorem splitAt_of_none (h : ∀ c ∈ xs, p c = false) : splitAt p xs = [xs] := by
  induction xs with
  | nil => rfl
  | cons x xs ih =>
    obtain ⟨hx, hxs⟩ := List.forall_mem_cons.1 h
    rw [splitAt, hx, ih hxs]
    rfl

theorem splitAt_append_cons (hc : p c = true) :
    splitAt p (xs ++ c :: ys) = splitAt p xs ++ splitAt p ys := by
  induction xs with
  | nil => simp [splitAt, hc]
  | cons x xs ih =>
    obtain ⟨part, parts, hparts⟩ := List.exists_cons_of_ne_nil (splitAt_ne_nil p xs)
    cases hx : p x with
    | true => rw [List.cons_append, splitAt, if_pos hx, ih, splitAt, if_pos hx, List.cons_append]
    | false => simp [splitAt, hx, ih, hparts]

theorem splitAt_append (h : ∀ c ∈ xs, p c = false) (hc : p c = true) :
    splitAt p (xs ++ c :: ys) = xs :: splitAt p ys := by
  rw [splitAt_append_cons hc, splitAt_of_none h, List.singleton_append]

end Text

namespace Http

/-! ## Characters of a segment -/

/-- The character does not end a segment or what comes after it, and is no blank. -/
structure Tame (c : Char) : Prop where
  visible : 0x20 < c.toNat
  slash : c ≠ '/'
  backslash : c ≠ '\\'
  mark : c ≠ '?'
  hash : c ≠ '#'

instance (c : Char) : Decidable (Tame c) :=
  decidable_of_iff (0x20 < c.toNat ∧ c ≠ '/' ∧ c ≠ '\\' ∧ c ≠ '?' ∧ c ≠ '#')
    ⟨fun ⟨visible, slash, backslash, mark, hash⟩ => ⟨visible, slash, backslash, mark, hash⟩,
      fun h => ⟨h.visible, h.slash, h.backslash, h.mark, h.hash⟩⟩

def TameText (text : String) : Prop := ∀ c ∈ text.toList, Tame c

/-- The characters of the text are looked at one by one. -/
instance : DecidablePred TameText := fun text => List.decidableBAll Tame text.toList

theorem tame_upperHex {d : Nat} (h : d < 16) : Tame (upperHex d) := by
  have hall : ∀ d < 16, Tame (upperHex d) := by decide
  exact hall d h

theorem tame_percentByte (b : UInt8) : ∀ c ∈ percentByte b, Tame c := by
  have hb : b.toNat < 256 := b.toNat_lt
  intro c hc
  simp only [percentByte, List.mem_cons, List.not_mem_nil, or_false] at hc
  rcases hc with rfl | rfl | rfl
  · decide
  · exact tame_upperHex (by omega)
  · exact tame_upperHex (by omega)

theorem tame_of_kept {c : Char} (h : EncodeSet.segment c = false) (hbackslash : c ≠ '\\') :
    Tame c := by
  simp only [EncodeSet.segment, EncodeSet.plus, EncodeSet.control, Bool.or_eq_false_iff,
    decide_eq_false_iff_not, List.contains_eq_mem, List.mem_cons, List.not_mem_nil, or_false,
    not_or] at h
  obtain ⟨⟨hlow, -⟩, hblank, -, hhash, -, -, hmark, -, -, -, hslash⟩ := h
  refine ⟨?_, hslash, hbackslash, hmark, hhash⟩
  have hne : c.toNat ≠ 0x20 := fun heq => hblank (Char.toNat_inj.1 heq)
  omega

/-- An encoded id holds no character that is not tame but the backslashes that the id has. -/
theorem tame_or_backslash {id : String} {c : Char} (h : c ∈ (Manager.encodeId id).toList) :
    Tame c ∨ c = '\\' ∧ '\\' ∈ id.toList := by
  rw [Manager.encodeId, String.toList_ofList] at h
  obtain ⟨c', hc', hmem⟩ := List.mem_flatMap.1 h
  unfold encodeChar at hmem
  split at hmem
  · obtain ⟨b, -, hmem⟩ := List.mem_flatMap.1 hmem
    exact .inl (tame_percentByte b c hmem)
  · rename_i hkept
    obtain rfl := List.mem_singleton.1 hmem
    by_cases hbackslash : c = '\\'
    · exact .inr ⟨hbackslash, hbackslash ▸ hc'⟩
    · exact .inl (tame_of_kept (by simpa using hkept) hbackslash)

theorem tame_encodeId {id : String} (h : '\\' ∉ id.toList) :
    TameText (Manager.encodeId id) :=
  fun _ hc => (tame_or_backslash hc).resolve_right fun hmem => h hmem.2

/-! ## Segments that move -/

namespace Url

def Stays (segment : List Char) : Prop :=
  isDoubleDot segment = false ∧ isSingleDot segment = false

instance (segment : List Char) : Decidable (Stays segment) :=
  inferInstanceAs (Decidable (_ ∧ _))

/-- Before each segment that may move comes one of its own that stays. -/
inductive Steady : List (List Char) → Prop where
  | nil : Steady []
  | single {segment rest} (stays : Stays segment) (steady : Steady rest) : Steady (segment :: rest)
  | pair {segment other rest} (stays : Stays segment) (steady : Steady rest) :
      Steady (segment :: other :: rest)

/-- What is above something put on a floor is still on it. -/
theorem exists_above (top : List Char) (extra floor : List (List Char)) :
    ∃ extra', above (top :: extra ++ floor) = extra' ++ floor := by
  rw [List.cons_append, above]
  split
  · exact ⟨top :: extra, rfl⟩
  · exact ⟨extra, rfl⟩

theorem below_false (found : List (List Char)) (segment : List Char) :
    below false found segment = segment :: found := by
  simp [below]

theorem resolve_of_stays {segment : List Char} (h : Stays segment) (found rest : List (List Char)) :
    resolve false found (segment :: rest) = resolve false (segment :: found) rest := by
  cases rest with
  | nil => simp [resolve, h.1, h.2, below_false]
  | cons next rest => simp [resolve, h.1, h.2, below_false]

theorem resolve_all_stay {segments : List (List Char)} (h : ∀ segment ∈ segments, Stays segment)
    (found rest : List (List Char)) :
    resolve false found (segments ++ rest) = resolve false (segments.reverse ++ found) rest := by
  induction segments generalizing found with
  | nil => rfl
  | cons segment segments ih =>
    obtain ⟨hfirst, hothers⟩ := List.forall_mem_cons.1 h
    rw [List.cons_append, resolve_of_stays hfirst, ih hothers, List.reverse_cons, List.append_assoc,
      List.singleton_append]

/-- Whatever a segment does after one that stays, it leaves the floor. -/
theorem exists_resolve (top segment : List Char) (extra floor rest : List (List Char)) :
    (∃ more, resolve false (top :: extra ++ floor) (segment :: rest) = floor.reverse ++ more) ∨
      ∃ extra', resolve false (top :: extra ++ floor) (segment :: rest) =
        resolve false (extra' ++ floor) rest := by
  obtain ⟨extra', habove⟩ := exists_above top extra floor
  cases rest with
  | nil =>
    left
    rw [resolve, habove, below_false]
    split
    · exact ⟨extra'.reverse ++ [[]], by simp⟩
    · split
      · exact ⟨(top :: extra).reverse ++ [[]], by simp⟩
      · exact ⟨(top :: extra).reverse ++ [segment], by simp⟩
  | cons next rest =>
    right
    rw [resolve, habove, below_false]
    · split
      · exact ⟨extra', rfl⟩
      · split
        · exact ⟨top :: extra, rfl⟩
        · exact ⟨segment :: top :: extra, rfl⟩
    · exact List.cons_ne_nil _ _

/-- Steady segments stay on the floor that they are put on. -/
theorem Steady.resolve {segments : List (List Char)} (h : Steady segments)
    (extra floor : List (List Char)) :
    ∃ more, Url.resolve false (extra ++ floor) segments = floor.reverse ++ more := by
  induction h generalizing extra with
  | nil => exact ⟨extra.reverse, by simp [Url.resolve]⟩
  | single stays _ ih =>
    rw [resolve_of_stays stays]
    exact ih (_ :: extra)
  | pair stays _ ih =>
    rw [resolve_of_stays stays]
    rcases exists_resolve _ _ extra floor _ with hend | ⟨extra', hgoes⟩
    · exact hend
    · rw [← List.cons_append, hgoes]
      exact ih extra'

/-! ## Joined segments -/

theorem toList_pathText (pieces : List String) : (pathText (.segments pieces)).toList =
    pieces.flatMap fun piece => '/' :: piece.toList := by
  simp [pathText, List.flatMap_map]

theorem pathText_append (pieces pieces' : List String) : pathText (.segments (pieces ++ pieces')) =
    pathText (.segments pieces) ++ pathText (.segments pieces') := by
  simp [pathText]

theorem slash_intercalate {pieces : List String} (h : pieces ≠ []) :
    "/" ++ "/".intercalate pieces = pathText (.segments pieces) := by
  induction pieces with
  | nil => exact absurd rfl h
  | cons piece pieces ih =>
    cases pieces with
    | nil => simp [pathText]
    | cons next pieces =>
      have hrest := ih (List.cons_ne_nil _ _)
      rw [String.intercalate_cons_cons, String.append_assoc, hrest]
      simp [pathText, String.append_assoc]

theorem isSlash_of_tame {c : Char} (h : Tame c) : isSlash true c = false := by
  simp [isSlash, h.slash, h.backslash]

/-- Text joined by slashes is parted by them again. -/
theorem splitAt_joined {isSeparator : Char → Bool} (hslash : isSeparator '/' = true)
    {piece : String} {pieces : List String}
    (h : ∀ p ∈ piece :: pieces, ∀ c ∈ p.toList, isSeparator c = false) :
    Text.splitAt isSeparator (piece.toList ++ pieces.flatMap fun p => '/' :: p.toList) =
      piece.toList :: pieces.map String.toList := by
  induction pieces generalizing piece with
  | nil =>
    rw [List.flatMap_nil, List.append_nil]
    exact Text.splitAt_of_none (h piece List.mem_cons_self)
  | cons next pieces ih =>
    obtain ⟨hpiece, hrest⟩ := List.forall_mem_cons.1 h
    rw [List.flatMap_cons, List.cons_append, Text.splitAt_append hpiece hslash, ih hrest]
    rfl

/-- Pieces without slashes are told by the text that they are joined to. -/
theorem pathText_injective {pieces pieces' : List String}
    (h : ∀ p ∈ pieces, '/' ∉ p.toList) (h' : ∀ p ∈ pieces', '/' ∉ p.toList)
    (heq : pathText (.segments pieces) = pathText (.segments pieces')) : pieces = pieces' := by
  have hsplit : ∀ {pieces : List String}, (∀ p ∈ pieces, '/' ∉ p.toList) →
      Text.splitAt (· == '/') (pathText (.segments pieces)).toList =
        [] :: pieces.map String.toList := by
    intro pieces h
    have hnone : ∀ p ∈ "" :: pieces, ∀ c ∈ p.toList, (c == '/') = false := by
      refine List.forall_mem_cons.2 ⟨nofun, fun p hp c hc => beq_eq_false_iff_ne.2 ?_⟩
      rintro rfl
      exact h p hp hc
    rw [toList_pathText]
    exact splitAt_joined (by decide) hnone
  have hlists := hsplit h
  rw [heq, hsplit h'] at hlists
  exact ((List.map_inj_right fun _ _ => String.toList_inj.1).1 (List.cons.inj hlists).2).symm

/-- The segments of a path are those that it was joined from, encoded and resolved. -/
theorem segmentsOf_joined {piece : String} {pieces : List String}
    (h : ∀ p ∈ piece :: pieces, TameText p) :
    segmentsOf true (pathText (.segments (piece :: pieces))).toList =
      (resolve false [] ((piece :: pieces).map fun p => percentEncode .path p.toList)).map
        String.ofList := by
  have hdropped : dropSlash true (pathText (.segments (piece :: pieces))).toList =
      piece.toList ++ pieces.flatMap fun p => '/' :: p.toList := by
    rw [toList_pathText]
    rfl
  rw [segmentsOf, hdropped, encodedParts,
    splitAt_joined rfl fun p hp c hc => isSlash_of_tame (h p hp c hc), List.map_cons, List.map_map]
  rfl

/-! ## Reading a URL without a path -/

/-- The text is a scheme and what comes before a path, and no path. -/
def IsOrigin (base : String) : Prop :=
  ∃ scheme ∈ ["http", "https"], ∃ authority : List Char,
    base.toList = scheme.toList ++ "://".toList ++ authority ∧ authority ≠ [] ∧
      ∀ c ∈ authority, endsAuthority true c = false ∧ c ∉ ['\t', '\n', '\r']

theorem not_blank {c : Char} (h : 0x20 < c.toNat) : c ∉ ['\t', '\n', '\r'] := by
  intro hc
  simp only [List.mem_cons, List.not_mem_nil, or_false] at hc
  rcases hc with rfl | rfl | rfl <;> revert h <;> decide

theorem isOrigin_of_all {scheme authority : String} (hscheme : scheme ∈ ["http", "https"])
    (hne : authority ≠ "")
    (h : authority.toList.all (fun c => !endsAuthority true c && 0x20 < c.toNat) = true) :
    IsOrigin (scheme ++ "://" ++ authority) := by
  refine ⟨scheme, hscheme, authority.toList, by simp, by simpa using hne, fun c hc => ?_⟩
  have hc' := List.all_eq_true.1 h c hc
  simp only [Bool.and_eq_true, Bool.not_eq_true', decide_eq_true_eq] at hc'
  exact ⟨hc'.1, not_blank hc'.2⟩

/-- The origin of a manager that is named `nsx`. -/
theorem isOrigin_nsx : IsOrigin "http://nsx" := by
  have hname : "http://nsx" = "http" ++ "://" ++ "nsx" := by decide
  rw [hname]
  exact isOrigin_of_all List.mem_cons_self (by decide) (by decide)

theorem stripped_eq_self {first last : Char} {rest start : List Char}
    (hstart : first :: rest = start ++ [last]) (hfirst : isMargin first = false)
    (hlast : isMargin last = false) (h : ∀ c ∈ first :: rest, c ∉ ['\t', '\n', '\r']) :
    stripped (first :: rest) = first :: rest := by
  have hback : ((first :: rest).reverse.dropWhile isMargin).reverse = first :: rest := by
    rw [hstart, List.reverse_append, List.reverse_singleton, List.singleton_append,
      List.dropWhile_cons_of_neg (by simp [hlast]), List.reverse_cons, List.reverse_reverse]
  rw [stripped, List.dropWhile_cons_of_neg (by simp [hfirst]), hback]
  refine List.filter_eq_self.2 fun c hc => ?_
  simpa [and_assoc] using h c hc

theorem scheme?_of_origin {scheme : String} (h : scheme ∈ ["http", "https"]) (rest : List Char) :
    scheme? (scheme.toList ++ "://".toList ++ rest) = some (scheme, '/' :: '/' :: rest) := by
  simp only [List.mem_cons, List.not_mem_nil, or_false] at h
  rcases h with rfl | rfl <;> rfl

theorem stripped_origin {scheme : String} (h : scheme ∈ ["http", "https"]) {start : List Char}
    {last : Char} (hlast : isMargin last = false)
    (hall : ∀ c ∈ start ++ [last], c ∉ ['\t', '\n', '\r']) :
    stripped (scheme.toList ++ "://".toList ++ (start ++ [last])) =
      scheme.toList ++ "://".toList ++ (start ++ [last]) := by
  have hscheme : ∀ scheme ∈ ["http", "https"],
      (scheme.toList ++ "://".toList).all (0x20 < ·.toNat) = true := by decide
  have hchars : ∀ c ∈ scheme.toList ++ "://".toList ++ (start ++ [last]),
      c ∉ ['\t', '\n', '\r'] := by
    refine List.forall_mem_append.2 ⟨fun c hc => not_blank ?_, hall⟩
    simpa using List.all_eq_true.1 (hscheme scheme h) c hc
  have hend : scheme.toList ++ "://".toList ++ (start ++ [last]) =
      (scheme.toList ++ "://".toList ++ start) ++ [last] := by rw [List.append_assoc _ start]
  simp only [List.mem_cons, List.not_mem_nil, or_false] at h
  rcases h with rfl | rfl
  · exact stripped_eq_self hend (by decide) hlast hchars
  · exact stripped_eq_self hend (by decide) hlast hchars

theorem mem_of_mem_cutPort {b : Bool} {cs port : List Char} (h : (cutPort b cs).2 = some port)
    {c : Char} (hc : c ∈ port) : c ∈ cs := by
  induction cs generalizing b with
  | nil => cases h
  | cons first rest ih =>
    rw [cutPort] at h
    split at h
    · obtain rfl := Option.some.inj h
      exact List.mem_cons_of_mem _ hc
    · exact List.mem_cons_of_mem _ (ih h)

theorem mem_of_mem_cutAtLast {separator : Char} {cs : List Char} {c : Char}
    (hc : c ∈ (cutAtLast separator cs).2) : c ∈ cs := by
  rw [cutAtLast] at hc
  split at hc
  · exact List.mem_reverse.1 ((List.takeWhile_sublist _).subset (List.mem_reverse.1 hc))
  · exact hc

/-- Only a backslash leaves something of an authority over. -/
theorem left_of_authority? {scheme : String} {cs left : List Char} {authority : Authority}
    (h : authority? scheme true cs = some (authority, left)) (hcs : '\\' ∉ cs) : left = [] := by
  simp only [authority?, Option.bind_eq_some_iff] at h
  obtain ⟨host, -, number, -, h⟩ := h
  split at h
  · cases h
  · cases h
    refine List.dropWhile_eq_nil_iff.2 fun c hc => ?_
    cases hport : (cutPort false (cutAtLast '@' cs).2).2 with
    | none =>
      rw [hport] at hc
      cases hc
    | some port =>
      rw [hport] at hc
      have hmem := mem_of_mem_cutAtLast (mem_of_mem_cutPort hport hc)
      simpa using fun heq : c = '\\' => hcs (heq ▸ hmem)

theorem cutAtFirst_of_not_mem {separator : Char} {cs : List Char} (h : separator ∉ cs) :
    cutAtFirst separator cs = (cs, none) := by
  have hdrop : cs.dropWhile (· ≠ separator) = [] :=
    List.dropWhile_eq_nil_iff.2 fun c hc => by simpa using fun heq : c = separator => h (heq ▸ hc)
  simp only [cutAtFirst, hdrop]

/-- What follows the base of a URL is its path, if nothing in it begins anything else. -/
theorem parts_of_parse? {base tail : String} (hbase : IsOrigin base) {rest : List Char}
    (hslash : tail.toList = '/' :: rest)
    (htail : ∀ c ∈ tail.toList, 0x20 < c.toNat ∧ c ≠ '?' ∧ c ≠ '#') {url : Url}
    (h : parse? (base ++ tail) = some url) :
    url.isHttp = true ∧ url.path = .segments (segmentsOf true tail.toList) ∧ url.query = none := by
  obtain ⟨scheme, hscheme, authority, htext, hne, hplain⟩ := hbase
  have hspecial : scheme ≠ "file" ∧ isSpecial scheme = true := by
    simp only [List.mem_cons, List.not_mem_nil, or_false] at hscheme
    rcases hscheme with rfl | rfl <;> decide
  have hhttp : (scheme = "http" || scheme = "https") = true := by
    simpa only [List.mem_cons, List.not_mem_nil, or_false, Bool.or_eq_true, decide_eq_true_eq]
      using hscheme
  have htabs : ∀ c ∈ authority ++ tail.toList, c ∉ ['\t', '\n', '\r'] :=
    List.forall_mem_append.2
      ⟨fun c hc => (hplain c hc).2, fun c hc => not_blank (htail c hc).1⟩
  have hne' : tail.toList ≠ [] := by simp [hslash]
  have hend : authority ++ tail.toList =
      (authority ++ tail.toList.dropLast) ++ [tail.toList.getLast hne'] := by
    rw [List.append_assoc, List.dropLast_concat_getLast]
  have hlast : isMargin (tail.toList.getLast hne') = false := by
    have hvisible := (htail _ (List.getLast_mem hne')).1
    simpa [isMargin] using hvisible
  have hstripped : stripped (base ++ tail).toList =
      scheme.toList ++ "://".toList ++ (authority ++ tail.toList) := by
    rw [hend] at htabs ⊢
    rw [String.toList_append, htext, List.append_assoc _ authority, hend]
    exact stripped_origin hscheme hlast htabs
  have hslashes : ('/' :: '/' :: (authority ++ tail.toList)).dropWhile (isSlash true) =
      authority ++ tail.toList := by
    obtain ⟨first, others, rfl⟩ := List.exists_cons_of_ne_nil hne
    have hfirst : isSlash true first = false := by
      have hplain' := (hplain first List.mem_cons_self).1
      simp only [endsAuthority, Bool.or_eq_false_iff] at hplain'
      exact hplain'.1.1
    rw [List.dropWhile_cons_of_pos rfl, List.dropWhile_cons_of_pos rfl, List.cons_append,
      List.dropWhile_cons_of_neg (by simp [hfirst])]
  have hcut : cutAuthority true (authority ++ tail.toList) = (authority, tail.toList) := by
    have hplain' : ∀ c ∈ authority, (!endsAuthority true c) = true := fun c hc => by
      simp [(hplain c hc).1]
    rw [cutAuthority, List.takeWhile_append_of_pos hplain', List.dropWhile_append_of_pos hplain',
      hslash]
    simp [endsAuthority, isSlash]
  have hpath : cutPath true tail.toList = (tail.toList, none, none) := by
    rw [cutPath, cutAtFirst_of_not_mem fun hmem => (htail _ hmem).2.2 rfl]
    dsimp only
    rw [cutAtFirst_of_not_mem fun hmem => (htail _ hmem).2.1 rfl]
    rfl
  have hbackslash : '\\' ∉ authority := fun hmem => by
    have hplain' := (hplain _ hmem).1
    revert hplain'
    decide
  rw [parse?, hstripped, scheme?_of_origin hscheme, Option.bind_some] at h
  dsimp only at h
  rw [if_neg hspecial.1, if_pos hspecial.2, hslashes, withAuthority?, hcut] at h
  obtain ⟨⟨found, left⟩, hfound, rfl⟩ := Option.map_eq_some_iff.1 h
  obtain rfl := left_of_authority? hfound hbackslash
  dsimp only
  rw [List.nil_append, finish, hpath]
  refine ⟨hhttp, ?_, rfl⟩
  dsimp only
  rw [segmented, if_neg (by simp)]

/-- The URL of a text that requests can be made for. -/
theorem parse?_of_target {text : String} {url : Url} (h : target text = .ok url) :
    parse? text = some url ∧ url.hasHost = true := by
  rw [target] at h
  split at h
  · cases h
  · rename_i hsome
    split at h
    · rename_i hhost
      obtain rfl := Except.ok.inj h
      exact ⟨hsome, hhost⟩
    · cases h

/-- Where the segments after some that stay are steady, the path begins with those. -/
theorem path_of_target {base : String} (hbase : IsOrigin base) {first : String}
    {floor pieces : List String} (htame : ∀ p ∈ first :: floor ++ pieces, TameText p)
    (hfloor : ∀ p ∈ first :: floor, percentEncode .path p.toList = p.toList ∧ Stays p.toList)
    (hsteady : Steady (pieces.map fun p => percentEncode .path p.toList)) {url : Url}
    (h : target (base ++ pathText (.segments (first :: floor ++ pieces))) = .ok url) :
    ∃ more, url.path = .segments (first :: floor ++ more) := by
  obtain ⟨hparse, -⟩ := parse?_of_target h
  have htail : ∀ c ∈ (pathText (.segments (first :: floor ++ pieces))).toList,
      0x20 < c.toNat ∧ c ≠ '?' ∧ c ≠ '#' := by
    intro c hc
    rw [toList_pathText] at hc
    obtain ⟨piece, hpiece, hc⟩ := List.mem_flatMap.1 hc
    rcases List.mem_cons.1 hc with rfl | hc
    · decide
    · have hc' := htame piece hpiece c hc
      exact ⟨hc'.visible, hc'.mark, hc'.hash⟩
  have hslash : (pathText (.segments (first :: floor ++ pieces))).toList =
      '/' :: (first.toList ++ (floor ++ pieces).flatMap fun p => '/' :: p.toList) := by
    rw [toList_pathText]
    rfl
  have hsame : ((first :: floor).map fun p => percentEncode .path p.toList) =
      (first :: floor).map String.toList := List.map_congr_left fun p hp => (hfloor p hp).1
  have hstay : ∀ segment ∈ (first :: floor).map String.toList, Stays segment := by
    intro segment hmem
    obtain ⟨p, hp, rfl⟩ := List.mem_map.1 hmem
    exact (hfloor p hp).2
  obtain ⟨more, hmore⟩ := hsteady.resolve [] ((first :: floor).map String.toList).reverse
  have hsegments : segmentsOf true (pathText (.segments (first :: floor ++ pieces))).toList =
      (resolve false [] ((first :: floor ++ pieces).map fun p => percentEncode .path p.toList)).map
        String.ofList := segmentsOf_joined htame
  refine ⟨more.map String.ofList, ?_⟩
  rw [(parts_of_parse? hbase hslash htail hparse).2.1, hsegments, List.map_append, hsame,
    resolve_all_stay hstay, List.append_nil]
  rw [List.nil_append, List.reverse_reverse] at hmore
  rw [hmore, List.map_append, List.map_map]
  simp

end Url

end Http

open Http Url

/-! ## Collections -/

/-- Before each place of an id comes a fixed segment of its own. -/
def PathSegment.spaced : List PathSegment → Bool
  | [] => true
  | .fixed _ :: .parent :: rest => spaced rest
  | .fixed _ :: rest => spaced rest
  | .parent :: _ => false

/-- Fixed text is one segment, and stays where it is put. -/
def PathSegment.Calm : PathSegment → Prop
  | .fixed text => TameText text ∧ Stays (percentEncode .path text.toList)
  | .parent => True

instance : DecidablePred PathSegment.Calm := fun segment => by
  cases segment <;> unfold PathSegment.Calm <;> infer_instance

namespace Kind

theorem collection_spaced (kind : Kind) : PathSegment.spaced kind.collection = true ∧
    PathSegment.spaced (kind.collection ++ [.parent]) = true := by
  cases kind <;> decide

theorem collection_calm (kind : Kind) : ∀ segment ∈ kind.collection, segment.Calm := by
  have hall : ∀ kind ∈ all, ∀ segment ∈ kind.collection, segment.Calm := by decide +kernel
  exact hall kind (mem_all kind)

theorem mem_fill {pattern : List PathSegment} {parents : List String} {piece : String}
    (h : piece ∈ fill pattern parents) : .fixed piece ∈ pattern ∨ piece ∈ parents ∨ piece = "" := by
  induction pattern generalizing parents with
  | nil => cases h
  | cons segment pattern ih =>
    cases segment with
    | fixed text =>
      rcases List.mem_cons.1 h with rfl | h
      · exact .inl List.mem_cons_self
      · exact (ih h).imp_left (List.mem_cons_of_mem _)
    | parent =>
      rcases List.mem_cons.1 h with rfl | h
      · cases parents with
        | nil => exact .inr (.inr rfl)
        | cons parent parents => exact .inr (.inl List.mem_cons_self)
      · rcases ih h with hfixed | hparent | hempty
        · exact .inl (List.mem_cons_of_mem _ hfixed)
        · exact .inr (.inl (List.mem_of_mem_tail hparent))
        · exact .inr (.inr hempty)

theorem fill_append {pattern : List PathSegment} {parents : List String}
    (h : parents.length = pattern.count .parent) (pattern' : List PathSegment)
    (parents' : List String) : fill (pattern ++ pattern') (parents ++ parents') =
      fill pattern parents ++ fill pattern' parents' := by
  induction pattern generalizing parents with
  | nil =>
    obtain rfl := List.length_eq_zero_iff.1 h
    rfl
  | cons segment pattern ih =>
    cases segment with
    | fixed text =>
      have hcount : parents.length = pattern.count .parent := by simpa using h
      rw [List.cons_append, fill, fill, ih hcount, List.cons_append]
    | parent =>
      cases parents with
      | nil => simp at h
      | cons parent parents =>
        have hcount : parents.length = pattern.count .parent := by simpa using h
        rw [List.cons_append, List.cons_append, fill, fill]
        exact congrArg (parent :: ·) (ih hcount)

/-- However the places of ids are filled, what stands there has a fixed segment before it. -/
theorem steady_fill {pattern : List PathSegment} (hspaced : PathSegment.spaced pattern = true)
    (hcalm : ∀ segment ∈ pattern, segment.Calm) (parents : List String) :
    Steady ((fill pattern parents).map fun p => percentEncode .path p.toList) := by
  induction pattern using PathSegment.spaced.induct generalizing parents with
  | case1 => exact .nil
  | case2 text rest ih =>
    obtain ⟨htext, hothers⟩ := List.forall_mem_cons.1 hcalm
    exact .pair htext.2 (ih hspaced (List.forall_mem_cons.1 hothers).2 parents.tail)
  | case3 text rest hnot ih =>
    obtain ⟨htext, hothers⟩ := List.forall_mem_cons.1 hcalm
    have hrest : PathSegment.spaced rest = true := by
      rw [PathSegment.spaced] at hspaced
      · exact hspaced
      · exact hnot
    exact .single htext.2 (ih hrest hothers parents)
  | case4 rest => cases hspaced

theorem tame_fill {pattern : List PathSegment} (hcalm : ∀ segment ∈ pattern, segment.Calm)
    {ids : List String} (hids : ∀ id ∈ ids, '\\' ∉ id.toList) :
    ∀ p ∈ fill pattern (ids.map Manager.encodeId), TameText p := by
  intro p hp
  rcases mem_fill hp with hfixed | hid | rfl
  · exact (hcalm _ hfixed).1
  · obtain ⟨id, hmem, rfl⟩ := List.mem_map.1 hid
    exact tame_encodeId (hids id hmem)
  · exact fun c hc => nomatch hc

end Kind

def Http.UrlPath.UnderPolicy (path : UrlPath) : Prop :=
  ∃ more, path = .segments ("policy" :: ["api", "v1"] ++ more)

namespace Manager

variable {σ : Type} {m : Manager σ} {kind : Kind} {parents : List String} {id text : String}
  {url : Url}

/-- Segments below the root of the policy API stay there. -/
theorem underPolicy_of_steady (hbase : IsOrigin m.base) {pieces : List String}
    (htame : ∀ p ∈ pieces, TameText p)
    (hsteady : Steady (pieces.map fun p => percentEncode .path p.toList))
    (h : target (m.base ++ Api.policy.root ++ pathText (.segments pieces)) = .ok url) :
    url.path.UnderPolicy := by
  have hroot : Api.policy.root = pathText (.segments ("policy" :: ["api", "v1"])) := by decide
  have hfloor : ∀ p ∈ "policy" :: ["api", "v1"], (TameText p) ∧
      percentEncode .path p.toList = p.toList ∧ Stays p.toList := by decide
  rw [String.append_assoc, hroot, ← pathText_append] at h
  refine path_of_target hbase ?_ (fun p hp => (hfloor p hp).2) hsteady h
  exact List.forall_mem_append.2 ⟨fun p hp => (hfloor p hp).1, htame⟩

theorem collectionUrl_eq (h : m.collectionUrl kind parents = .ok text) :
    text = m.base ++ kind.api.root ++
        pathText (.segments (Kind.fill kind.collection (parents.map encodeId))) ∧
      parents.length = kind.parentCount := by
  have hne : Kind.fill kind.collection (parents.map encodeId) ≠ [] := by
    cases kind <;> exact List.cons_ne_nil _ _
  rw [collectionUrl] at h
  cases haccess : requireAccess m.allowPassthrough kind parents with
  | error e =>
    rw [haccess] at h
    cases h
  | ok _ =>
    rw [haccess] at h
    obtain rfl := Except.ok.inj h
    refine ⟨?_, ?_⟩
    · rw [collectionPath, ← slash_intercalate hne, String.append_assoc]
    · revert haccess
      unfold requireAccess
      split
      · exact nofun
      · split
        · exact fun _ => by assumption
        · exact nofun

theorem objectUrl_eq (h : m.objectUrl kind parents id = .ok text) :
    text = m.base ++ kind.api.root ++ pathText (.segments
      (Kind.fill (kind.collection ++ [.parent]) ((parents ++ [id]).map encodeId))) := by
  obtain ⟨collection, hcollection, rfl⟩ : ∃ collection,
      m.collectionUrl kind parents = .ok collection ∧ collection ++ "/" ++ encodeId id = text := by
    rw [objectUrl] at h
    cases hcollection : m.collectionUrl kind parents with
    | error e =>
      rw [hcollection] at h
      cases h
    | ok collection =>
      rw [hcollection] at h
      exact ⟨collection, rfl, Except.ok.inj h⟩
  obtain ⟨rfl, hlength⟩ := collectionUrl_eq hcollection
  have hcount : (parents.map encodeId).length = kind.collection.count .parent := by
    rw [List.length_map]
    exact hlength
  have hlast : "/" ++ encodeId id = pathText (.segments [encodeId id]) := by simp [pathText]
  rw [List.map_append, Kind.fill_append hcount, pathText_append, String.append_assoc, hlast,
    String.append_assoc]
  rfl

/-- What the client asks for in a collection of the policy API lies below that API's root, unless an
id holds a backslash. -/
theorem underPolicy_of_collectionUrl (hbase : IsOrigin m.base) (hkind : kind.api = .policy)
    (hids : ∀ id ∈ parents, '\\' ∉ id.toList) (h : m.collectionUrl kind parents = .ok text)
    (htarget : target text = .ok url) : url.path.UnderPolicy := by
  obtain ⟨rfl, -⟩ := collectionUrl_eq h
  rw [hkind] at htarget
  exact underPolicy_of_steady hbase (Kind.tame_fill kind.collection_calm hids)
    (Kind.steady_fill kind.collection_spaced.1 kind.collection_calm _) htarget

theorem underPolicy_of_objectUrl (hbase : IsOrigin m.base) (hkind : kind.api = .policy)
    (hids : ∀ name ∈ parents ++ [id], '\\' ∉ name.toList)
    (h : m.objectUrl kind parents id = .ok text) (htarget : target text = .ok url) :
    url.path.UnderPolicy := by
  have hcalm : ∀ segment ∈ kind.collection ++ [.parent], segment.Calm :=
    List.forall_mem_append.2 ⟨kind.collection_calm, fun segment hmem =>
      List.mem_singleton.1 hmem ▸ trivial⟩
  obtain rfl := objectUrl_eq h
  rw [hkind] at htarget
  exact underPolicy_of_steady hbase (Kind.tame_fill hcalm hids)
    (Kind.steady_fill kind.collection_spaced.2 hcalm _) htarget

theorem underPolicy_of_searchUrl (hbase : IsOrigin m.base)
    (htarget : target (m.base ++ Api.policy.root ++ "/search/query") = .ok url) :
    url.path.UnderPolicy := by
  have hsearch : "/search/query" = pathText (.segments ["search", "query"]) := by decide
  rw [hsearch] at htarget
  have htame : ∀ p ∈ ["search", "query"], TameText p := by decide
  refine underPolicy_of_steady hbase htame ?_ htarget
  exact .single (by decide) (.single (by decide) .nil)

end Manager

end NetSweep
