import Mathlib.Algebra.Order.BigOperators.Group.List
import NetSweep.Migration.TagService
import NetSweep.Proofs.DecodedResources
import NetSweep.Proofs.DryRun
import NetSweep.Proofs.PercentEscapes
import NetSweep.Proofs.RequestPaths

/-!
# What requests address

A path names what its segments stand for once they are decoded.  An id that the client puts into a
path is named there if the path takes it literally: it holds no backslash, which would part it, no
escape, which would be read as the character that it writes, and it is no segment that moves.  In
any other case the path names something else.  The reason is a count of bytes, one more for each
segment: parting keeps it, resolving a segment that moves and reading an escape make it smaller, so
a path that names as much as was meant has done neither.
-/

namespace NetSweep

namespace Http

open Text (utf8 utf8Bytes)

/-! ## Segments that move -/

theorem eq_of_toLower {c d : Char} (h : c.toLower = d) :
    c = d ∨ c.toNat + 32 = d.toNat ∧ 97 ≤ d.toNat := by
  unfold Char.toLower at h
  split at h
  · rename_i hupper
    right
    subst h
    have hlow : 65 ≤ c.val.toNat := UInt32.le_iff_toNat_le.1 hupper.1
    have hhigh : c.val.toNat ≤ 90 := UInt32.le_iff_toNat_le.1 hupper.2
    show c.val.toNat + 32 = (c.val + 32).toNat ∧ 97 ≤ (c.val + 32).toNat
    rw [UInt32.toNat_add]
    have h32 : (32 : UInt32).toNat = 32 := rfl
    omega
  · exact .inl h

theorem eq_of_toLower_mark {c d : Char} (h : c.toLower = d) (hd : d.toNat < 97) : c = d := by
  rcases eq_of_toLower h with heq | ⟨-, hletter⟩
  · exact heq
  · omega

/-- What a text stands for that begins with a dot, written either way. -/
theorem percentDecode_of_dot {cs after : List Char}
    (h : Url.lowerAscii cs = '.' :: after ∨ Url.lowerAscii cs = '%' :: '2' :: 'e' :: after) :
    ∃ rest, Url.lowerAscii rest = after ∧ percentDecode cs = utf8 ['.'] ++ percentDecode rest := by
  rcases h with h | h
  · obtain ⟨dot, rest, rfl, hdot, hrest⟩ := List.map_eq_cons_iff.1 h
    obtain rfl := eq_of_toLower_mark hdot (by decide)
    exact ⟨rest, hrest, percentDecode_cons rfl⟩
  · obtain ⟨percent, others, rfl, hpercent, hothers⟩ := List.map_eq_cons_iff.1 h
    obtain ⟨two, others, rfl, htwo, hothers⟩ := List.map_eq_cons_iff.1 hothers
    obtain ⟨letter, rest, rfl, hletter, hrest⟩ := List.map_eq_cons_iff.1 hothers
    obtain rfl := eq_of_toLower_mark hpercent (by decide)
    obtain rfl := eq_of_toLower_mark htwo (by decide)
    have hbyte : hexByte? '2' letter = some 0x2E := by
      rcases eq_of_toLower hletter with rfl | ⟨hupper, -⟩
      · rfl
      · obtain rfl : letter = 'E' := Char.toNat_inj.1 (Nat.add_right_cancel hupper)
        rfl
    exact ⟨rest, hrest, percentDecode_escape hbyte rest⟩

namespace Url

theorem percentDecode_of_isSingleDot {segment : List Char} (h : isSingleDot segment = true) :
    percentDecode segment = utf8 ['.'] := by
  have hspelled : lowerAscii segment = ['.'] ∨ lowerAscii segment = ['%', '2', 'e'] := by
    simpa [isSingleDot, ← String.toList_inj] using h
  obtain ⟨rest, hrest, hdecode⟩ := percentDecode_of_dot hspelled
  obtain rfl := List.map_eq_nil_iff.1 hrest
  exact hdecode

theorem percentDecode_of_isDoubleDot {segment : List Char} (h : isDoubleDot segment = true) :
    percentDecode segment = utf8 ['.', '.'] := by
  have hspelled : ∃ after, (lowerAscii segment = '.' :: after ∨
      lowerAscii segment = '%' :: '2' :: 'e' :: after) ∧
        (after = ['.'] ∨ after = ['%', '2', 'e']) := by
    have hcases : lowerAscii segment = "..".toList ∨ lowerAscii segment = ".%2e".toList ∨
        lowerAscii segment = "%2e.".toList ∨ lowerAscii segment = "%2e%2e".toList := by
      simpa [isDoubleDot, ← String.toList_inj] using h
    rcases hcases with h | h | h | h
    · exact ⟨_, .inl h, .inl rfl⟩
    · exact ⟨_, .inl h, .inr rfl⟩
    · exact ⟨_, .inr h, .inl rfl⟩
    · exact ⟨_, .inr h, .inr rfl⟩
  obtain ⟨after, hfirst, hsecond⟩ := hspelled
  obtain ⟨rest, rfl, hdecode⟩ := percentDecode_of_dot hfirst
  obtain ⟨rest', hrest', hdecode'⟩ := percentDecode_of_dot hsecond
  obtain rfl := List.map_eq_nil_iff.1 hrest'
  rw [hdecode, hdecode']
  rfl

/-- A segment that moves stands for one dot or two. -/
theorem stays_of_percentDecode {segment : List Char} (hone : percentDecode segment ≠ utf8 ['.'])
    (htwo : percentDecode segment ≠ utf8 ['.', '.']) : Stays segment := by
  constructor
  · exact Bool.eq_false_iff.2 fun h => htwo (percentDecode_of_isDoubleDot h)
  · exact Bool.eq_false_iff.2 fun h => hone (percentDecode_of_isSingleDot h)

/-! ## Counting bytes -/

/-- The bytes that segments stand for, and one more for each segment. -/
def bulk (segments : List (List Char)) : Nat :=
  (segments.map fun segment => (percentDecode segment).length + 1).sum

@[simp] theorem bulk_nil : bulk [] = 0 := rfl

@[simp] theorem bulk_cons (segment : List Char) (segments : List (List Char)) :
    bulk (segment :: segments) = (percentDecode segment).length + 1 + bulk segments := by
  simp [bulk]

@[simp] theorem bulk_reverse (segments : List (List Char)) :
    bulk segments.reverse = bulk segments := by
  simp [bulk, List.sum_reverse]

theorem bulk_encoded {set : EncodeSet} (h : set.Clear) (segments : List (List Char)) :
    bulk (segments.map (percentEncode set)) = bulk segments := by
  simp [bulk, Function.comp_def, h.percentDecode]

theorem bulk_above (found : List (List Char)) : bulk (above found) ≤ bulk found := by
  unfold above
  split
  · exact le_rfl
  · split
    · exact le_rfl
    · rw [bulk_cons]
      omega

def moving (segments : List (List Char)) : List (List Char) :=
  segments.filter fun segment => ¬Stays segment

theorem one_le_length_of_moves {segment : List Char} (h : ¬Stays segment) :
    1 ≤ (percentDecode segment).length := by
  refine Nat.one_le_iff_ne_zero.2 fun hzero => h ?_
  rw [percentDecode_eq_nil (List.eq_nil_of_length_eq_zero hzero)]
  decide

/-- A segment that moves is not put on those found before; at the end an empty one takes its
place. -/
theorem exists_resolve_of_moves {segment : List Char} (h : ¬Stays segment)
    (found : List (List Char)) : ∃ left, bulk left ≤ bulk found ∧
      resolve false found [segment] = ([] :: left).reverse ∧
      ∀ next rest, resolve false found (segment :: next :: rest) =
        resolve false left (next :: rest) := by
  cases hdouble : isDoubleDot segment with
  | true =>
    exact ⟨above found, bulk_above found, by simp [resolve, hdouble],
      fun next rest => by rw [resolve, if_pos hdouble]; exact List.cons_ne_nil _ _⟩
  | false =>
    have hsingle : isSingleDot segment = true := by simpa [Stays, hdouble] using h
    exact ⟨found, le_rfl, by simp [resolve, hdouble, hsingle], fun next rest => by
      rw [resolve, if_neg (by simp [hdouble]), if_pos hsingle]
      exact List.cons_ne_nil _ _⟩

theorem resolve_of_all_stay {segments : List (List Char)} (h : ∀ segment ∈ segments, Stays segment) :
    resolve false [] segments = segments := by
  have hresolved := resolve_all_stay h [] []
  rwa [List.append_nil, List.append_nil, resolve, List.reverse_reverse] at hresolved

/-- Resolving makes segments smaller by at least one for each that moves. -/
theorem bulk_resolve (found segments : List (List Char)) :
    bulk (resolve false found segments) + (moving segments).length ≤
      bulk found + bulk segments := by
  induction segments generalizing found with
  | nil => simp [resolve, moving]
  | cons segment rest ih =>
    by_cases hstays : Stays segment
    · have hmoving : moving (segment :: rest) = moving rest := by simp [moving, hstays]
      have hrest := ih (segment :: found)
      rw [resolve_of_stays hstays, hmoving]
      simp only [bulk_cons] at hrest ⊢
      omega
    · have hmoving : moving (segment :: rest) = segment :: moving rest := by simp [moving, hstays]
      have hlength := one_le_length_of_moves hstays
      obtain ⟨left, hleft, hlast, hgoes⟩ := exists_resolve_of_moves hstays found
      rw [hmoving, List.length_cons, bulk_cons]
      cases rest with
      | nil =>
        rw [hlast]
        simp only [bulk_reverse, bulk_cons, percentDecode, List.length_nil, moving, List.filter_nil,
          bulk_nil]
        omega
      | cons next rest =>
        have hrest := ih left
        rw [hgoes]
        omega

theorem percentDecode_separated {c : Char} (h : isSlash true c = true) (cs ds : List Char) :
    (percentDecode (cs ++ c :: ds)).length + 1 =
      (percentDecode cs).length + 1 + ((percentDecode ds).length + 1) := by
  have hc : c ≠ '%' ∧ hexDigit? c = none ∧ (utf8 [c]).length = 1 := by
    have hslash : c = '/' ∨ c = '\\' := by simpa [isSlash] using h
    rcases hslash with rfl | rfl <;> decide
  rw [percentDecode_append_cons hc.1 hc.2.1, List.length_append, List.length_append, hc.2.2]
  omega

/-- Parting at separators makes nothing smaller. -/
theorem bulk_splitAt (cs : List Char) :
    bulk (Text.splitAt (isSlash true) cs) = (percentDecode cs).length + 1 := by
  induction hn : cs.length using Nat.strong_induction_on generalizing cs with
  | _ n ih =>
    cases hfind : cs.find? (isSlash true) with
    | none =>
      have hnone : ∀ c ∈ cs, isSlash true c = false := by simpa using hfind
      rw [Text.splitAt_of_none hnone, bulk_cons, bulk_nil, Nat.add_zero]
    | some c =>
      obtain ⟨hc, before, after, rfl, hbefore⟩ := List.find?_eq_some_iff_append.1 hfind
      have hbefore' : ∀ d ∈ before, isSlash true d = false := by simpa using hbefore
      have hshorter : after.length < n := by
        rw [← hn, List.length_append, List.length_cons]
        omega
      rw [Text.splitAt_append hbefore' hc, bulk_cons, ih _ hshorter after rfl,
        percentDecode_separated hc]

/-! ## Names -/

/-- The id is one segment of a path, which stands for it. -/
structure Literal (id : String) : Prop where
  backslash : '\\' ∉ id.toList
  escape : hasEscape id.toList = false
  moves : id ≠ "." ∧ id ≠ ".."

instance (id : String) : Decidable (Literal id) :=
  decidable_of_iff ('\\' ∉ id.toList ∧ hasEscape id.toList = false ∧ id ≠ "." ∧ id ≠ "..")
    ⟨fun ⟨backslash, escape, moves⟩ => ⟨backslash, escape, moves⟩,
      fun h => ⟨h.backslash, h.escape, h.moves⟩⟩

/-- The names that a path's segments stand for, if each stands for one. -/
def names? : UrlPath → Option (List String)
  | .segments items => items.mapM decoded?
  | .plain _ => none

theorem decoded?_eq_some_iff {part name : String} :
    decoded? part = some name ↔ percentDecode part.toList = utf8Bytes name :=
  Text.text?_eq_some_iff

/-- Segments that are named stand for as many bytes as their names have. -/
theorem bulk_of_names? {segments : List (List Char)} {names : List String}
    (h : names? (.segments (segments.map String.ofList)) = some names) :
    bulk segments = (names.map fun name => (utf8Bytes name).length + 1).sum := by
  rw [names?, mapM_eq_some, List.map_map] at h
  induction segments generalizing names with
  | nil =>
    obtain rfl := List.map_eq_nil_iff.1 h.symm
    rfl
  | cons segment segments ih =>
    obtain ⟨name, names, rfl, hname, hnames⟩ := List.map_eq_cons_iff.1 h.symm
    rw [bulk_cons, List.map_cons, List.sum_cons, ih hnames.symm]
    have hdecoded := decoded?_eq_some_iff.1 hname.symm
    rw [String.toList_ofList] at hdecoded
    rw [hdecoded]

/-! ## Encoded names -/

theorem percentDecode_encodeId (id : String) :
    percentDecode (Manager.encodeId id).toList = percentDecode id.toList := by
  rw [Manager.encodeId, String.toList_ofList, EncodeSet.clear_segment.percentDecode]

theorem Literal.percentDecode {id : String} (h : Literal id) :
    Http.percentDecode (Manager.encodeId id).toList = utf8Bytes id := by
  rw [percentDecode_encodeId, percentDecode_of_no_escape h.escape, utf8Bytes]

/-- A literal id is one segment, and that stays. -/
theorem Literal.stays {id : String} (h : Literal id) :
    Stays (percentEncode .path (Manager.encodeId id).toList) := by
  have hbytes : Http.percentDecode (percentEncode .path (Manager.encodeId id).toList) =
      utf8 id.toList := by
    rw [EncodeSet.clear_path.percentDecode, h.percentDecode, utf8Bytes]
  have hne : ∀ name : String, id ≠ name → utf8 id.toList ≠ utf8 name.toList := fun name hid heq =>
    hid (String.toList_inj.1 (Text.utf8_injective heq))
  exact stays_of_percentDecode (hbytes ▸ hne "." h.moves.1) (hbytes ▸ hne ".." h.moves.2)

def written (name : String) (names : List String) : List Char :=
  (Manager.encodeId name).toList ++ names.flatMap fun n => '/' :: (Manager.encodeId n).toList

theorem segmentsOf_written (name : String) (names : List String) :
    segmentsOf true (pathText (.segments ((name :: names).map Manager.encodeId))).toList =
      (resolve false [] (encodedParts true (written name names))).map String.ofList := by
  have hdropped : dropSlash true
      (pathText (.segments ((name :: names).map Manager.encodeId))).toList = written name names := by
    rw [toList_pathText, List.flatMap_map]
    rfl
  rw [segmentsOf, hdropped]

/-- The parts of a path without backslashes are the names that were put into it. -/
theorem encodedParts_written {name : String} {names : List String}
    (h : ∀ n ∈ name :: names, '\\' ∉ n.toList) :
    encodedParts true (written name names) =
      (name :: names).map fun n => percentEncode .path (Manager.encodeId n).toList := by
  have htame : ∀ p ∈ Manager.encodeId name :: names.map Manager.encodeId, TameText p := by
    rw [← List.map_cons]
    intro p hp
    obtain ⟨n, hn, rfl⟩ := List.mem_map.1 hp
    exact tame_encodeId (h n hn)
  have hparts := splitAt_joined rfl fun p hp c hc => isSlash_of_tame (htame p hp c hc)
  rw [List.flatMap_map] at hparts
  rw [encodedParts, written, hparts, List.map_cons, List.map_cons, List.map_map, List.map_map]
  simp only [Function.comp_def]

/-- A path of literal ids names them. -/
theorem names?_of_literal {name : String} {names : List String}
    (h : ∀ n ∈ name :: names, Literal n) :
    names? (.segments ((resolve false [] (encodedParts true (written name names))).map
      String.ofList)) = some (name :: names) := by
  have hparts := encodedParts_written fun n hn => (h n hn).backslash
  have hstay : ∀ segment ∈ encodedParts true (written name names), Stays segment := by
    intro segment hmem
    rw [hparts] at hmem
    obtain ⟨n, hn, rfl⟩ := List.mem_map.1 hmem
    exact (h n hn).stays
  rw [resolve_of_all_stay hstay, hparts, names?, mapM_eq_some, List.map_map, List.map_map]
  refine List.map_congr_left fun n hn => decoded?_eq_some_iff.2 ?_
  simp only [String.toList_ofList]
  rw [EncodeSet.clear_path.percentDecode, (h n hn).percentDecode]

theorem bulk_written (name : String) (names : List String) :
    bulk (encodedParts true (written name names)) =
      ((name :: names).map fun n => (percentDecode n.toList).length + 1).sum := by
  rw [encodedParts, bulk_encoded EncodeSet.clear_path, bulk_splitAt]
  induction names generalizing name with
  | nil => simp [written, percentDecode_encodeId]
  | cons next names ih =>
    have hwritten : written name (next :: names) =
        (Manager.encodeId name).toList ++ '/' :: written next names := rfl
    rw [hwritten, percentDecode_separated rfl, ih, percentDecode_encodeId]
    simp

theorem length_splitAt (p : Char → Bool) (cs : List Char) :
    (Text.splitAt p cs).length = cs.countP p + 1 := by
  induction cs with
  | nil => rfl
  | cons c cs ih =>
    obtain ⟨part, parts, hparts⟩ := List.exists_cons_of_ne_nil (Text.splitAt_ne_nil p cs)
    rw [hparts] at ih
    cases hc : p c with
    | true => rw [Text.splitAt, if_pos hc, List.length_cons, hparts, ih, List.countP_cons_of_pos hc]
    | false =>
      have hc' : ¬p c = true := by simp [hc]
      rw [Text.splitAt, if_neg hc', hparts, List.countP_cons_of_neg hc']
      exact ih

/-- Each name is one part and as many more as there are backslashes in it. -/
theorem length_written (name : String) (names : List String) :
    (encodedParts true (written name names)).length = ((name :: names).map fun n =>
      (Manager.encodeId n).toList.countP (isSlash true) + 1).sum := by
  rw [encodedParts, List.length_map, length_splitAt]
  induction names generalizing name with
  | nil => simp [written]
  | cons next names ih =>
    have hwritten : written name (next :: names) =
        (Manager.encodeId name).toList ++ '/' :: written next names := rfl
    have hsplit : ∀ f : String → Nat, ((name :: next :: names).map f).sum =
        f name + ((next :: names).map f).sum := fun f => rfl
    rw [hwritten, List.countP_append, List.countP_cons_of_pos rfl, Nat.add_assoc, ih, hsplit]
    omega

theorem backslash_mem_encodeId {id : String} (h : '\\' ∈ id.toList) :
    '\\' ∈ (Manager.encodeId id).toList := by
  rw [Manager.encodeId, String.toList_ofList]
  exact List.mem_flatMap.2 ⟨'\\', h, by decide⟩

/-- Where a path names what was put into it, nothing moves in it and nothing is an escape. -/
theorem moving_of_names? {name : String} {names : List String}
    (h : names? (.segments ((resolve false [] (encodedParts true (written name names))).map
      String.ofList)) = some (name :: names)) :
    moving (encodedParts true (written name names)) = [] ∧
      ∀ n ∈ name :: names, hasEscape n.toList = false := by
  have hnamed := bulk_of_names? h
  have hresolved := bulk_resolve [] (encodedParts true (written name names))
  have hle : ∀ n ∈ name :: names,
      (percentDecode n.toList).length + 1 ≤ (utf8Bytes n).length + 1 := fun n _ =>
    Nat.succ_le_succ (length_percentDecode n.toList).1
  have hsum := List.sum_le_sum hle
  rw [bulk_written, hnamed, bulk_nil, Nat.zero_add] at hresolved
  refine ⟨List.eq_nil_of_length_eq_zero (by omega), fun n hn => ?_⟩
  by_contra hescape
  have hless := List.sum_lt_sum _ _ hle
    ⟨n, hn, Nat.succ_lt_succ ((length_percentDecode n.toList).2 (by simpa using hescape))⟩
  omega

/-- Names that a path names as they were put into it are literal. -/
theorem literal_of_names? {name : String} {names : List String}
    (h : names? (.segments ((resolve false [] (encodedParts true (written name names))).map
      String.ofList)) = some (name :: names)) : ∀ n ∈ name :: names, Literal n := by
  obtain ⟨hmoving, hescape⟩ := moving_of_names? h
  have hstay : ∀ segment ∈ encodedParts true (written name names), Stays segment := by
    simpa [moving] using hmoving
  have hbackslash : ∀ n ∈ name :: names, '\\' ∉ n.toList := by
    rw [resolve_of_all_stay hstay, names?, mapM_eq_some, List.map_map] at h
    have hlength := congrArg List.length h
    rw [List.length_map, List.length_map, length_written] at hlength
    intro n hn hmem
    have hmore : 1 < (Manager.encodeId n).toList.countP (isSlash true) + 1 :=
      Nat.succ_lt_succ (List.countP_pos_iff.2 ⟨'\\', backslash_mem_encodeId hmem, rfl⟩)
    have hless := List.sum_lt_sum (fun _ => 1)
      (fun n => (Manager.encodeId n).toList.countP (isSlash true) + 1)
      (fun _ _ => Nat.le_add_left 1 _) ⟨n, hn, hmore⟩
    rw [hlength, List.map_const', List.sum_replicate_nat, Nat.mul_one] at hless
    exact lt_irrefl _ hless
  intro n hn
  refine ⟨hbackslash n hn, hescape n hn, ?_⟩
  have hstays := hstay (percentEncode .path (Manager.encodeId n).toList) (by
    rw [encodedParts_written hbackslash]
    exact List.mem_map_of_mem hn)
  constructor
  · rintro rfl
    exact absurd hstays (by decide)
  · rintro rfl
    exact absurd hstays (by decide)

/-- What names are put into is read back as a path with their segments, and without a query. -/
theorem parts_of_written {base : String} (hbase : IsOrigin base) {name : String}
    {names : List String} {url : Url}
    (h : target (base ++ pathText (.segments ((name :: names).map Manager.encodeId))) = .ok url) :
    url.path = .segments ((resolve false [] (encodedParts true (written name names))).map
      String.ofList) ∧ url.query = none := by
  obtain ⟨hparse, -⟩ := parse?_of_target h
  have htail : ∀ c ∈ (pathText (.segments ((name :: names).map Manager.encodeId))).toList,
      0x20 < c.toNat ∧ c ≠ '?' ∧ c ≠ '#' := by
    intro c hc
    rw [toList_pathText] at hc
    obtain ⟨piece, hpiece, hc⟩ := List.mem_flatMap.1 hc
    obtain ⟨n, -, rfl⟩ := List.mem_map.1 hpiece
    rcases List.mem_cons.1 hc with rfl | hc
    · decide
    · rcases tame_or_backslash hc with htame | ⟨rfl, -⟩
      · exact ⟨htame.visible, htame.mark, htame.hash⟩
      · decide
  have hslash : (pathText (.segments ((name :: names).map Manager.encodeId))).toList =
      '/' :: written name names := by
    rw [toList_pathText, List.flatMap_map]
    rfl
  obtain ⟨-, hpath, hquery⟩ := parts_of_parse? hbase hslash htail hparse
  exact ⟨by rw [hpath, segmentsOf_written], hquery⟩

theorem query_of_names {base : String} (hbase : IsOrigin base) {names : List String}
    (hne : names ≠ []) {url : Url}
    (h : target (base ++ pathText (.segments (names.map Manager.encodeId))) = .ok url) :
    url.query = none := by
  obtain ⟨name, names, rfl⟩ := List.exists_cons_of_ne_nil hne
  exact (parts_of_written hbase h).2

/-- The path of a URL that names were put into names them exactly if each is literal. -/
theorem names?_iff_literal {base : String} (hbase : IsOrigin base) {names : List String}
    (hne : names ≠ []) {url : Url}
    (h : target (base ++ pathText (.segments (names.map Manager.encodeId))) = .ok url) :
    names? url.path = some names ↔ ∀ n ∈ names, Literal n := by
  obtain ⟨name, names, rfl⟩ := List.exists_cons_of_ne_nil hne
  rw [(parts_of_written hbase h).1]
  exact ⟨literal_of_names?, names?_of_literal⟩

end Url

end Http

open Http Url

/-! ## Addresses -/

/-- The text is put into a path as it is, and is one segment of it. -/
structure Http.Url.Fixed (text : String) : Prop where
  kept : Manager.encodeId text = text
  literal : Literal text

instance (text : String) : Decidable (Fixed text) :=
  decidable_of_iff (Manager.encodeId text = text ∧ Literal text)
    ⟨fun ⟨kept, literal⟩ => ⟨kept, literal⟩, fun h => ⟨h.kept, h.literal⟩⟩

def Api.segments : Api → List String
  | policy => ["policy", "api", "v1"]
  | manager => ["api", "v1"]

theorem Api.root_eq (api : Api) :
    api.root = pathText (.segments (api.segments.map Manager.encodeId)) := by
  cases api <;> decide

theorem Api.segments_ne_nil (api : Api) : api.segments ≠ [] := by cases api <;> decide

def PathSegment.text? : PathSegment → Option String
  | .fixed text => some text
  | .parent => none

/-- The segments of an object's path; the last is its id. -/
def Kind.objectPattern (kind : Kind) : List PathSegment := kind.collection ++ [.parent]

namespace Address

def ids (a : Address) : List String := a.parents ++ [a.id]

def names (a : Address) : List String :=
  a.kind.api.segments ++ Kind.fill a.kind.objectPattern a.ids

/-- A path takes each id of the address literally. -/
def Literal (a : Address) : Prop := ∀ id ∈ a.ids, Url.Literal id

/-- The address has as many parents as its kind asks for. -/
def Complete (a : Address) : Prop := a.parents.length = a.kind.parentCount

instance (a : Address) : Decidable a.Literal :=
  inferInstanceAs (Decidable (∀ id ∈ a.ids, Url.Literal id))

end Address

namespace Kind

theorem fixed_of_mem {kind : Kind} {text : String} (h : .fixed text ∈ kind.objectPattern) :
    Fixed text := by
  have hall : ∀ kind ∈ all, ∀ text ∈ kind.objectPattern.filterMap PathSegment.text?,
      Fixed text := by
    decide +kernel
  exact hall kind (mem_all kind) text (List.mem_filterMap.2 ⟨_, h, rfl⟩)

theorem fill_encoded {pattern : List PathSegment}
    (h : ∀ text, .fixed text ∈ pattern → Fixed text) (ids : List String) :
    fill pattern (ids.map Manager.encodeId) = (fill pattern ids).map Manager.encodeId := by
  induction pattern generalizing ids with
  | nil => rfl
  | cons segment pattern ih =>
    have hrest := fun ids => ih (fun text hmem => h text (List.mem_cons_of_mem _ hmem)) ids
    cases segment with
    | fixed text =>
      rw [fill, fill, hrest, List.map_cons, (h text List.mem_cons_self).kept]
    | parent =>
      cases ids with
      | nil =>
        have hempty := hrest []
        rw [List.map_nil] at hempty
        rw [List.map_nil, fill, List.tail_nil, List.map_cons, ← hempty]
        rfl
      | cons id ids => exact congrArg (Manager.encodeId id :: ·) (hrest ids)

theorem mem_fill_of_mem {pattern : List PathSegment} {ids : List String} {id : String}
    (h : ids.length = pattern.count .parent) (hid : id ∈ ids) : id ∈ fill pattern ids := by
  induction pattern generalizing ids with
  | nil =>
    obtain rfl := List.length_eq_zero_iff.1 h
    cases hid
  | cons segment pattern ih =>
    cases segment with
    | fixed text => exact List.mem_cons_of_mem _ (ih (by simpa using h) hid)
    | parent =>
      obtain ⟨first, ids, rfl⟩ := List.exists_cons_of_ne_nil (List.ne_nil_of_mem hid)
      rcases List.mem_cons.1 hid with rfl | hid
      · exact List.mem_cons_self
      · exact List.mem_cons_of_mem _ (ih (by simpa using h) hid)

theorem fill_injective {pattern : List PathSegment} {ids ids' : List String}
    (h : ids.length = pattern.count .parent) (h' : ids'.length = pattern.count .parent)
    (heq : fill pattern ids = fill pattern ids') : ids = ids' := by
  induction pattern generalizing ids ids' with
  | nil => rw [List.length_eq_zero_iff.1 h, List.length_eq_zero_iff.1 h']
  | cons segment pattern ih =>
    cases segment with
    | fixed text => exact ih (by simpa using h) (by simpa using h') (List.cons.inj heq).2
    | parent =>
      rw [List.count_cons_self] at h h'
      obtain ⟨id, ids, rfl⟩ := List.exists_cons_of_length_eq_add_one h
      obtain ⟨id', ids', rfl⟩ := List.exists_cons_of_length_eq_add_one h'
      obtain ⟨hid, hrest⟩ := List.cons.inj heq
      exact congrArg₂ List.cons hid (ih (Nat.succ.inj h) (Nat.succ.inj h') hrest)

end Kind

namespace Address

variable {a a' : Address}

theorem Complete.ids (h : a.Complete) : a.ids.length = a.kind.objectPattern.count .parent := by
  have hcount : a.parents.length = a.kind.collection.count .parent := h
  rw [Address.ids, Kind.objectPattern, List.length_append, List.count_append, hcount]
  rfl

/-- The names of an address are literal if its ids are. -/
theorem literal_names_iff (h : a.Complete) : (∀ n ∈ a.names, Url.Literal n) ↔ a.Literal := by
  constructor
  · intro hnames id hid
    exact hnames id (List.mem_append_right _ (Kind.mem_fill_of_mem h.ids hid))
  · intro hids n hn
    rcases List.mem_append.1 hn with hn | hn
    · have hall : ∀ api, ∀ n ∈ Api.segments api, Url.Literal n := by
        rintro (_ | _) <;> decide
      exact hall a.kind.api n hn
    · rcases Kind.mem_fill hn with hfixed | hid | rfl
      · exact (Kind.fixed_of_mem hfixed).literal
      · exact hids n hid
      · decide

/-- An address is told by its kind and its names. -/
theorem eq_of_names (h : a.Complete) (h' : a'.Complete) (hkind : a.kind = a'.kind)
    (hnames : a.names = a'.names) : a = a' := by
  obtain ⟨kind, parents, id⟩ := a
  obtain ⟨kind', parents', id'⟩ := a'
  obtain rfl : kind = kind' := hkind
  have hids := Kind.fill_injective h.ids h'.ids (List.append_cancel_left hnames)
  obtain ⟨rfl, hid⟩ := List.append_inj' hids rfl
  obtain rfl := List.singleton_inj.1 hid
  rfl

end Address

/-! ## Requests about an object -/

inductive ObjectCall where
  | get
  | delete
  | patch (body : Json)

namespace Manager

variable {σ : Type} {m : Manager σ} {a : Address} {text : String} {url : Url}

def sent (m : Manager σ) (call : ObjectCall) (a : Address) (s : σ) : List Request :=
  match call with
  | .get => (m.recorded.get a.kind a.parents a.id (s, [])).2.2
  | .delete => (m.recorded.delete a.kind a.parents a.id (s, [])).2.2
  | .patch body => (m.recorded.patch a.kind a.parents a.id body (s, [])).2.2

/-- An object's URL is the base with the object's names put into a path. -/
theorem objectUrl_names (h : m.objectUrl a.kind a.parents a.id = .ok text) :
    text = m.base ++ pathText (.segments (a.names.map encodeId)) := by
  have hids : Kind.fill (a.kind.collection ++ [.parent]) ((a.parents ++ [a.id]).map encodeId) =
      (Kind.fill a.kind.objectPattern a.ids).map encodeId :=
    Kind.fill_encoded (fun _ => Kind.fixed_of_mem) a.ids
  rw [objectUrl_eq h, hids, Api.root_eq, String.append_assoc, ← pathText_append, Address.names,
    List.map_append]

/-- A collection's URL is the base with the collection's names put into a path. -/
theorem collectionUrl_names {kind : Kind} {parents : List String}
    (h : m.collectionUrl kind parents = .ok text) : text = m.base ++ pathText
      (.segments ((kind.api.segments ++ Kind.fill kind.collection parents).map encodeId)) := by
  have hfixed : ∀ text, .fixed text ∈ kind.collection → Fixed text := fun text hmem =>
    Kind.fixed_of_mem (List.mem_append_left _ hmem)
  rw [(collectionUrl_eq h).1, Kind.fill_encoded hfixed, Api.root_eq, String.append_assoc,
    ← pathText_append, List.map_append]

theorem names_ne_nil (a : Address) : a.names ≠ [] :=
  List.append_ne_nil_of_left_ne_nil (Api.segments_ne_nil _) _

/-- Whatever the client sends to do something with an object, it sends for the object's URL. -/
theorem exists_target {call : ObjectCall} {s : σ} {r : Request} (h : r ∈ m.sent call a s) :
    ∃ text url, m.objectUrl a.kind a.parents a.id = .ok text ∧ target text = .ok url ∧
      r.url.path = url.path := by
  let A : Method → UrlPath → Prop := fun _ path => ∃ text url,
    m.objectUrl a.kind a.parents a.id = .ok text ∧ target text = .ok url ∧ path = url.path
  have hallows : ∀ method text, m.objectUrl a.kind a.parents a.id = .ok text →
      Allows A method text := fun method text htext url hurl => ⟨text, url, htext, hurl, rfl⟩
  have hadmits := m.recorded_admits A []
  have hextends : ∀ x : σ × List Request, x.2 = m.sent call a s →
      Extends (fun r => A r.method r.url.path) [] x.2 → A r.method r.url.path := by
    rintro x hx ⟨entries, hentries, hall⟩
    rw [hx, List.nil_append] at hentries
    exact hall r (hentries ▸ h)
  cases call with
  | get => exact hextends _ rfl (get_keeps hadmits (hallows .get) (.refl _ []))
  | delete => exact hextends _ rfl (delete_keeps hadmits (hallows .delete) (.refl _ []))
  | patch body =>
    refine hextends _ rfl ?_
    cases hkind : a.kind.api with
    | policy => exact patch_keeps hadmits hkind (hallows .patch) (.refl _ [])
    | manager =>
      rw [patch]
      cases hobject : m.recorded.objectUrl a.kind a.parents a.id with
      | error e => exact .refl _ []
      | ok text =>
        rw [hkind]
        exact replace_keeps hadmits (hallows .get text hobject) (hallows .put text hobject)
          (.refl _ [])

/-- A request about an object names that object exactly if its ids are literal. -/
theorem names?_of_sent (hbase : IsOrigin m.base) (ha : a.Complete) {call : ObjectCall} {s : σ}
    {r : Request} (h : r ∈ m.sent call a s) :
    names? r.url.path = some a.names ↔ a.Literal := by
  obtain ⟨text, url, htext, hurl, hpath⟩ := exists_target h
  rw [objectUrl_names htext] at hurl
  rw [hpath, names?_iff_literal hbase (names_ne_nil a) hurl, Address.literal_names_iff ha]

end Manager

/-! ## Requests about a tag -/

namespace Migration.TagService

variable {σ : Type} {t : TagService σ}

def recorded (t : TagService σ) : TagService (σ × List Request) :=
  { t with network := t.network.recorded }

def sent (t : TagService σ) (collection id tag : String) (s : σ) : List Request :=
  (t.recorded.addTag collection id tag (s, [])).2.2

def names (collection : List String) (id tag : String) : List String :=
  "v2.0" :: collection ++ [id, "tags", tag]

theorem tagUrl_names {collection : List String} (hne : collection ≠ [])
    (hfixed : ∀ name ∈ collection, Fixed name) (id tag : String) :
    t.tagUrl ("/".intercalate collection) id tag =
      t.base ++ pathText (.segments ((names collection id tag).map Manager.encodeId)) := by
  have hkept : collection.map Manager.encodeId = collection :=
    (List.map_congr_left fun name hname => (hfixed name hname).kept).trans (List.map_id _)
  have hv : "v2.0" = Manager.encodeId "v2.0" := by decide
  have htags : "tags" = Manager.encodeId "tags" := by decide
  have hv' : "/v2.0/" = "/v2.0" ++ "/" := by decide
  have htags' : "/tags/" = "/tags" ++ "/" := by decide
  rw [tagUrl, names, List.cons_append, List.map_cons, List.map_append, hkept, ← hv, List.map_cons,
    List.map_cons, List.map_cons, List.map_nil, ← htags, ← List.singleton_append, pathText_append,
    pathText_append, ← slash_intercalate hne]
  simp only [pathText, List.map_cons, List.map_nil, String.join_cons, String.join_nil, hv', htags',
    String.append_assoc, String.append_empty]
  rfl

theorem target_of_request {text : String} {r : Request} (h : t.request text = .ok r) :
    target text = .ok r.url := by
  rw [request] at h
  cases htarget : target text with
  | error message =>
    rw [htarget] at h
    cases h
  | ok url =>
    rw [htarget] at h
    dsimp only at h
    split at h
    · obtain rfl := Except.ok.inj h
      rfl
    · cases h

/-- What the client sends to add a tag, it sends for the tag's URL. -/
theorem exists_target {collection id tag : String} {s : σ} {r : Request}
    (h : r ∈ t.sent collection id tag s) : target (t.tagUrl collection id tag) = .ok r.url := by
  have hurl : t.recorded.tagUrl collection id tag = t.tagUrl collection id tag := rfl
  rw [sent, addTag, hurl] at h
  cases hrequest : t.recorded.request (t.tagUrl collection id tag) with
  | error message =>
    rw [hrequest] at h
    cases h
  | ok request =>
    have hsent : r ∈ (exchange t.network.recorded request (s, [])).2.2 := by
      rw [hrequest] at h
      dsimp only at h
      split at h
      · rename_i hexchange
        exact hexchange ▸ h
      · rename_i hexchange
        split at h <;> exact hexchange ▸ h
    have hrequest' : r = request := by
      rcases exchange_sends t.network request (s, []) with hone | ⟨-, hnone⟩
      · rw [hone] at hsent
        exact List.mem_singleton.1 hsent
      · rw [hnone] at hsent
        cases hsent
    rw [hrequest']
    exact target_of_request hrequest

/-- A request about a tag names it exactly if the id and the tag are literal. -/
theorem names?_of_sent (hbase : IsOrigin t.base) {collection : List String}
    (hne : collection ≠ []) (hfixed : ∀ name ∈ collection, Fixed name) {id tag : String} {s : σ}
    {r : Request} (h : r ∈ t.sent ("/".intercalate collection) id tag s) :
    names? r.url.path = some (names collection id tag) ↔ Literal id ∧ Literal tag := by
  have htarget := exists_target h
  rw [tagUrl_names hne hfixed] at htarget
  rw [names?_iff_literal hbase (by simp [names]) htarget, names]
  have hcollection : ∀ name ∈ collection, Literal name := fun name hname =>
    (hfixed name hname).literal
  have hv : Literal "v2.0" := by decide
  have htags : Literal "tags" := by decide
  simp only [List.cons_append, List.forall_mem_cons, List.forall_mem_append, List.not_mem_nil,
    hv, htags, true_and]
  exact ⟨fun h => ⟨h.2.1, h.2.2.1⟩, fun h => ⟨hcollection, h.1, h.2, nofun⟩⟩

end Migration.TagService

/-! ## Both clients -/

/-- Two literal addresses of one kind are told apart by the paths of their requests. -/
theorem Manager.eq_of_same_path {σ τ : Type} {m : Manager σ} {m' : Manager τ}
    (hbase : IsOrigin m.base) (hbase' : IsOrigin m'.base) {a a' : Address} (ha : a.Complete)
    (ha' : a'.Complete) (hkind : a.kind = a'.kind) (hliteral : a.Literal) (hliteral' : a'.Literal)
    {call call' : ObjectCall} {s : σ} {s' : τ} {r r' : Request} (hr : r ∈ m.sent call a s)
    (hr' : r' ∈ m'.sent call' a' s') (hpath : r.url.path = r'.url.path) : a = a' := by
  have hnames := (names?_of_sent hbase ha hr).2 hliteral
  have hnames' := (names?_of_sent hbase' ha' hr').2 hliteral'
  rw [← hpath, hnames] at hnames'
  exact Address.eq_of_names ha ha' hkind (Option.some.inj hnames')

open Migration (TagService)

/-- What the client of a manager that is addressed by scheme and authority sends to get, delete or
patch an object names the object, by the root of its API, the collection of its kind with the
parents in place and the id, exactly if no id of the address holds a backslash or an escape or is a
segment that moves; and two such addresses of one kind never share a path.  So it is for the id and
the tag of a request that adds a tag. -/
theorem path_names_object_iff_literal {σ τ : Type} (m : Manager σ) (t : TagService τ) :
    (IsOrigin m.base → ∀ a : Address, a.Complete → ∀ call s, ∀ r ∈ m.sent call a s,
      (names? r.url.path = some a.names ↔ a.Literal) ∧
      ∀ a' : Address, a'.Complete → a.kind = a'.kind → a.Literal → a'.Literal →
        ∀ call' s', ∀ r' ∈ m.sent call' a' s', r.url.path = r'.url.path → a = a') ∧
    (IsOrigin t.base → ∀ collection, collection ≠ [] → (∀ name ∈ collection, Fixed name) →
      ∀ id tag s, ∀ r ∈ t.sent ("/".intercalate collection) id tag s,
        names? r.url.path = some (TagService.names collection id tag) ↔
          Literal id ∧ Literal tag) := by
  refine ⟨fun hbase a ha call s r hr => ⟨Manager.names?_of_sent hbase ha hr, ?_⟩,
    fun hbase collection hne hfixed id tag s r hr =>
      TagService.names?_of_sent hbase hne hfixed hr⟩
  intro a' ha' hkind hliteral hliteral' call' s' r' hr' hpath
  exact Manager.eq_of_same_path hbase hbase ha ha' hkind hliteral hliteral' hr hr' hpath

def Manager.unheard : Manager Unit :=
  { network := .down, base := "http://nsx", authorization := "", allowPassthrough := true
    patience := .upTo 1 }

def Migration.TagService.unheard : TagService Unit := .connect .down "http://nsx" none

def Address.segment (id : String) : Address := { kind := .segment, parents := [], id }

/-- An id with a space is named; one that spells a slash is not, since it has the path of the id
with that slash; and an id with a slash is named next to its tag. -/
theorem spelled_slash_is_read :
    (∃ r ∈ Manager.unheard.sent .delete (.segment "a b") (),
      names? r.url.path = some ["policy", "api", "v1", "infra", "segments", "a b"]) ∧
    (∃ r ∈ Manager.unheard.sent .delete (.segment "a%2Fb") (),
      ∃ r' ∈ Manager.unheard.sent .delete (.segment "a/b") (), r.url.path = r'.url.path ∧
        names? r'.url.path = some ["policy", "api", "v1", "infra", "segments", "a/b"] ∧
        names? r.url.path ≠ some ["policy", "api", "v1", "infra", "segments", "a%2Fb"]) ∧
    ∃ r ∈ TagService.unheard.sent "qos/policies" "p/1" "gold" (),
      names? r.url.path = some ["v2.0", "qos", "policies", "p/1", "tags", "gold"] := by
  obtain ⟨hobject, htag⟩ := path_names_object_iff_literal Manager.unheard TagService.unheard
  have hnames := fun id => hobject isOrigin_nsx (.segment id) rfl .delete ()
  have hsent : ∀ id ∈ ["a b", "a%2Fb", "a/b"],
      Manager.unheard.sent .delete (.segment id) () ≠ [] := by decide +kernel
  refine ⟨?_, ?_, ?_⟩
  · obtain ⟨r, hr⟩ := List.exists_mem_of_ne_nil _ (hsent "a b" (by decide))
    exact ⟨r, hr, (hnames "a b" r hr).1.2 (by decide)⟩
  · obtain ⟨r, hr⟩ := List.exists_mem_of_ne_nil _ (hsent "a%2Fb" (by decide))
    obtain ⟨r', hr'⟩ := List.exists_mem_of_ne_nil _ (hsent "a/b" (by decide))
    have hpath : ∀ r ∈ Manager.unheard.sent .delete (.segment "a%2Fb") (),
        ∀ r' ∈ Manager.unheard.sent .delete (.segment "a/b") (), r.url.path = r'.url.path := by
      decide +kernel
    have hescape : ¬(Address.segment "a%2Fb").Literal := by decide
    exact ⟨r, hr, r', hr', hpath r hr r' hr', (hnames "a/b" r' hr').1.2 (by decide),
      fun hsame => hescape ((hnames "a%2Fb" r hr).1.1 hsame)⟩
  · have htagged : TagService.unheard.sent "qos/policies" "p/1" "gold" () ≠ [] := by
      decide +kernel
    obtain ⟨r, hr⟩ := List.exists_mem_of_ne_nil _ htagged
    have hpieces := htag isOrigin_nsx ["qos", "policies"] (by decide) (by decide) "p/1" "gold" ()
      r hr
    exact ⟨r, hr, hpieces.2 (by decide)⟩

end NetSweep
