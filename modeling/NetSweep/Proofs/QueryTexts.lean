import Mathlib.Data.List.Basic
import NetSweep.Search

/-!
# Queries as texts

The text of a query splits into words at the spaces that no backslash escapes: one word for each
term, and between two of them the word `AND`.  Escaping keeps a term in one word, whatever it asks
for, so a query is read back as the terms that it was written from.
-/

namespace NetSweep.Search

/-! ## Words -/

theorem words_ne_nil (cs : List Char) : words cs ≠ [] := by
  fun_cases words cs with
  | case1 => exact List.cons_ne_nil _ _
  | case2 | case3 => simp_all
  | case4 => exact List.cons_ne_nil _ _
  | case5 | case6 => simp_all

theorem words_escaped (c : Char) (rest : List Char) :
    words ('\\' :: c :: rest) = (words rest).modifyHead (['\\', c] ++ ·) := by
  rw [words]
  cases hrest : words rest with
  | nil => exact absurd hrest (words_ne_nil rest)
  | cons w ws => rfl

theorem words_space (rest : List Char) : words (' ' :: rest) = [] :: words rest := by
  rw [words, if_pos rfl]
  rintro _ _ ⟨⟩

theorem words_plain {c : Char} (hescape : c ≠ '\\') (hspace : c ≠ ' ') (rest : List Char) :
    words (c :: rest) = (words rest).modifyHead ([c] ++ ·) := by
  rw [words, if_neg hspace]
  · cases hrest : words rest with
    | nil => exact absurd hrest (words_ne_nil rest)
    | cons w ws => rfl
  · rintro _ _ hc
    exact absurd hc hescape

/-- The text goes into one word as a whole, together with what follows it. -/
def Unbroken (cs : List Char) : Prop :=
  ∀ rest, words (cs ++ rest) = (words rest).modifyHead (cs ++ ·)

theorem unbroken_nil : Unbroken [] := fun rest => by
  cases hrest : words rest with
  | nil => exact absurd hrest (words_ne_nil rest)
  | cons w ws =>
    rw [List.nil_append, hrest]
    rfl

theorem Unbroken.append {as bs : List Char} (has : Unbroken as) (hbs : Unbroken bs) :
    Unbroken (as ++ bs) := fun rest => by
  rw [List.append_assoc, has, hbs, List.modifyHead_modifyHead]
  congr 1
  funext w
  exact (List.append_assoc as bs w).symm

def isPlain (c : Char) : Bool := c ≠ '\\' ∧ c ≠ ' '

theorem isPlain_iff {c : Char} : isPlain c = true ↔ c ≠ '\\' ∧ c ≠ ' ' := decide_eq_true_iff

theorem unbroken_of_plain {cs : List Char} (h : cs.all isPlain = true) : Unbroken cs := by
  induction cs with
  | nil => exact unbroken_nil
  | cons c cs ih =>
    obtain ⟨hplain, hrest⟩ := Bool.and_eq_true_iff.1 h
    obtain ⟨hescape, hspace⟩ := isPlain_iff.1 hplain
    have hc : Unbroken [c] := words_plain hescape hspace
    exact hc.append (ih hrest)

theorem unbroken_escape (cs : List Char) : Unbroken (escape cs) := by
  induction cs with
  | nil => exact unbroken_nil
  | cons c cs ih =>
    have hc : Unbroken (if c ∈ reserved then ['\\', c] else [c]) := by
      split
      · exact words_escaped c
      · rename_i hplain
        exact words_plain (fun h => hplain (h ▸ by decide)) fun h => hplain (h ▸ by decide)
    exact hc.append ih

theorem Unbroken.words_eq {cs : List Char} (h : Unbroken cs) : words cs = [cs] := by
  have hwords := h []
  rwa [List.append_nil, words, List.modifyHead_cons, List.append_nil] at hwords

theorem Unbroken.words_append_space {cs : List Char} (h : Unbroken cs) (rest : List Char) :
    words (cs ++ ' ' :: rest) = cs :: words rest := by
  rw [h, words_space, List.modifyHead_cons, List.append_nil]

theorem unescape_escape (cs : List Char) : unescape (escape cs) = cs := by
  induction cs with
  | nil => rfl
  | cons c cs ih =>
    rw [escape, List.flatMap_cons]
    split
    · rw [List.cons_append, List.singleton_append, unescape]
      exact congrArg _ ih
    · rename_i hplain
      have hc : c ≠ '\\' := fun h => hplain (h ▸ by decide)
      rw [List.singleton_append, unescape]
      · exact congrArg _ ih
      · rintro _ _ h
        exact absurd h hc

theorem unescape_of_plain {cs : List Char} (h : cs.all isPlain = true) : unescape cs = cs := by
  induction cs with
  | nil => rfl
  | cons c cs ih =>
    obtain ⟨hplain, hrest⟩ := Bool.and_eq_true_iff.1 h
    rw [unescape, ih hrest]
    rintro _ _ hc
    exact absurd hc (isPlain_iff.1 hplain).1

theorem after?_append (as cs : List Char) : after? as (as ++ cs) = some cs := by
  induction as with
  | nil => rfl
  | cons a as ih => rw [List.cons_append, after?, if_pos rfl, ih]

/-! ## Terms -/

def unescaped (cs : List Char) : String := String.ofList (unescape cs)

/-- What the text of a type, a scope or a value begins with. -/
def typeLabel : List Char := "resource_type:".toList

@[inherit_doc typeLabel]
def scopeLabel : List Char := "tags.scope:".toList

@[inherit_doc typeLabel]
def valueLabel : List Char := "tags.tag:".toList

def Term.read? (w : List Char) : Option Term :=
  ((after? typeLabel w).map fun cs => .resourceType (unescaped cs)).or
    (((after? scopeLabel w).map fun cs => .scope (unescaped cs)).or
      ((after? valueLabel w).map fun cs => .value (unescaped cs)))

/-- Reads terms from words: every other word is `AND`. -/
def readTerms? : List (List Char) → Option (List Term)
  | [] => none
  | [w] => (Term.read? w).map ([·])
  | w :: joint :: rest =>
    if joint = "AND".toList then
      (Term.read? w).bind fun t => (readTerms? rest).map (t :: ·)
    else none

def terms? (text : String) : Option (List Term) := readTerms? (words text.toList)

/-- The name of a type has nothing in it that would have to be escaped. -/
def Term.Written : Term → Prop
  | .resourceType name => name.toList.all isPlain = true
  | .scope _ | .value _ => True

theorem Term.unbroken_chars {t : Term} (h : t.Written) : Unbroken t.chars := by
  cases t with
  | resourceType name => exact (unbroken_of_plain (by decide)).append (unbroken_of_plain h)
  | scope wanted => exact (unbroken_of_plain (by decide)).append (unbroken_escape _)
  | value wanted => exact (unbroken_of_plain (by decide)).append (unbroken_escape _)

theorem unescaped_escape (text : String) : unescaped (escape text.toList) = text := by
  rw [unescaped, unescape_escape, String.ofList_toList]

theorem Term.read?_chars {t : Term} (h : t.Written) : Term.read? t.chars = some t := by
  cases t with
  | resourceType name =>
    have hname : unescaped name.toList = name := by
      rw [unescaped, unescape_of_plain h, String.ofList_toList]
    have htype := after?_append typeLabel name.toList
    show read? (typeLabel ++ name.toList) = _
    rw [read?, htype, Option.map_some, Option.some_or, hname]
  | scope wanted =>
    have htype : after? typeLabel (scopeLabel ++ escape wanted.toList) = none := by rfl
    have hscope := after?_append scopeLabel (escape wanted.toList)
    show read? (scopeLabel ++ escape wanted.toList) = _
    rw [read?, htype, hscope, Option.map_none, Option.none_or, Option.map_some, Option.some_or,
      unescaped_escape]
  | value wanted =>
    have htype : after? typeLabel (valueLabel ++ escape wanted.toList) = none := by rfl
    have hscope : after? scopeLabel (valueLabel ++ escape wanted.toList) = none := by rfl
    have hvalue := after?_append valueLabel (escape wanted.toList)
    show read? (valueLabel ++ escape wanted.toList) = _
    rw [read?, htype, hscope, hvalue, Option.map_none, Option.map_none, Option.none_or,
      Option.none_or, Option.map_some, unescaped_escape]

/-- The words of a query are its terms, with `AND` between them. -/
theorem words_chars {ts : List Term} (hne : ts ≠ []) (h : ∀ t ∈ ts, t.Written) :
    words (chars ts) = (ts.map Term.chars).intersperse "AND".toList := by
  induction ts with
  | nil => exact absurd rfl hne
  | cons t ts ih =>
    obtain ⟨ht, hts⟩ := List.forall_mem_cons.1 h
    cases ts with
    | nil => exact (Term.unbroken_chars ht).words_eq
    | cons t' ts =>
      have hjoint : Unbroken "AND".toList := unbroken_of_plain (by decide)
      have hsplit : chars (t :: t' :: ts) =
          t.chars ++ ' ' :: ("AND".toList ++ ' ' :: chars (t' :: ts)) := by
        rw [chars]
        · exact List.append_assoc _ _ _
        · exact List.cons_ne_nil _ _
      rw [hsplit, (Term.unbroken_chars ht).words_append_space, hjoint.words_append_space,
        ih (List.cons_ne_nil _ _) hts]
      rfl

theorem readTerms?_intersperse {ts : List Term} (hne : ts ≠ []) (h : ∀ t ∈ ts, t.Written) :
    readTerms? ((ts.map Term.chars).intersperse "AND".toList) = some ts := by
  induction ts with
  | nil => exact absurd rfl hne
  | cons t ts ih =>
    obtain ⟨ht, hts⟩ := List.forall_mem_cons.1 h
    cases ts with
    | nil =>
      show (Term.read? t.chars).map _ = _
      rw [Term.read?_chars ht, Option.map_some]
    | cons t' ts =>
      have hcons : ((t :: t' :: ts).map Term.chars).intersperse "AND".toList =
          t.chars :: "AND".toList :: ((t' :: ts).map Term.chars).intersperse "AND".toList := rfl
      rw [hcons, readTerms?, if_pos rfl, Term.read?_chars ht, Option.bind_some,
        ih (List.cons_ne_nil _ _) hts, Option.map_some]

theorem written_backendType (kind : Kind) :
    (Term.resourceType kind.backendType).Written := by
  show kind.backendType.toList.all isPlain = true
  cases kind <;> decide +kernel

theorem written_terms (kind : Kind) (tags : List TagPredicate) :
    ∀ t ∈ terms kind tags, t.Written := by
  intro t ht
  rcases List.mem_cons.1 ht with rfl | ht
  · exact written_backendType kind
  · obtain ⟨p, -, hterm⟩ := List.mem_flatMap.1 ht
    rcases List.mem_cons.1 hterm with rfl | hvalue
    · trivial
    · obtain ⟨value, -, rfl⟩ := List.mem_map.1 hvalue
      trivial

theorem words_query (kind : Kind) (tags : List TagPredicate) :
    words (query kind tags).toList =
      ((terms kind tags).map Term.chars).intersperse "AND".toList := by
  have hne : terms kind tags ≠ [] := List.cons_ne_nil _ _
  rw [query, String.toList_ofList, words_chars hne (written_terms kind tags)]

/-- A query is read back as its terms, whatever scopes and values are asked for. -/
theorem terms?_query (kind : Kind) (tags : List TagPredicate) :
    terms? (query kind tags) = some (terms kind tags) := by
  have hne : terms kind tags ≠ [] := List.cons_ne_nil _ _
  rw [terms?, words_query, readTerms?_intersperse hne (written_terms kind tags)]

end NetSweep.Search
