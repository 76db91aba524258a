import NetSweep.Proofs.QueryTexts

/-!
# Queries read back

From the text of a query the type's name is read back and the predicates, in order, each with its
value if it has one.  So whatever is asked for, no scope and no value can end its term, begin
another one or pass for part of it, and two queries have the same text only if they ask for the
same.
-/

namespace NetSweep.Search

/-- The words that ask for a predicate: each term after an `AND`. -/
def predicateWords (p : TagPredicate) : List (List Char) :=
  (predicateTerms p).flatMap fun t => ["AND".toList, t.chars]

theorem intersperse_cons {α : Type} (sep a : α) (as : List α) :
    (a :: as).intersperse sep = a :: as.flatMap fun b => [sep, b] := by
  induction as generalizing a with
  | nil => rfl
  | cons b as ih =>
    rw [List.intersperse_cons_cons, ih, List.flatMap_cons]
    rfl

/-- The words of a query are the type, and after it the words of each predicate. -/
theorem intersperse_terms (kind : Kind) (tags : List TagPredicate) :
    ((terms kind tags).map Term.chars).intersperse "AND".toList =
      (Term.resourceType kind.backendType).chars :: tags.flatMap predicateWords := by
  rw [terms, List.map_cons, intersperse_cons, List.map_flatMap, List.flatMap_assoc]
  refine congrArg _ (List.flatMap_congr fun p _ => ?_)
  rw [List.flatMap_map]
  rfl

theorem after?_scope (scope : String) :
    after? "tags.scope:".toList (Term.scope scope).chars = some (escape scope.toList) :=
  after?_append _ _

theorem after?_value (value : String) :
    after? "tags.tag:".toList (Term.value value).chars = some (escape value.toList) :=
  after?_append _ _

/-- A scope does not pass for a value. -/
theorem after?_value_scope (scope : String) :
    after? "tags.tag:".toList (Term.scope scope).chars = none := rfl

/-- The words of a predicate are read as the predicate, and reading goes on after them. -/
theorem readPredicates_cons (p : TagPredicate) (ps : List TagPredicate) :
    readPredicates ((p :: ps).flatMap predicateWords) =
      (readPredicates (ps.flatMap predicateWords)).map (p :: ·) := by
  obtain ⟨scope, tag⟩ := p
  have hscope : String.ofList (unescape (escape scope.toList)) = scope := unescaped_escape scope
  cases tag with
  | some value =>
    have hvalue : String.ofList (unescape (escape value.toList)) = value := unescaped_escape value
    show readPredicates ("AND".toList :: (Term.scope scope).chars :: "AND".toList ::
      (Term.value value).chars :: ps.flatMap predicateWords) = _
    rw [readPredicates, if_pos rfl, after?_scope]
    dsimp only
    rw [after?_value]
    dsimp only
    rw [if_pos rfl, hscope, hvalue]
  | none =>
    show readPredicates ("AND".toList :: (Term.scope scope).chars :: ps.flatMap predicateWords) = _
    rw [readPredicates, if_pos rfl, after?_scope]
    dsimp only
    -- what comes next is nothing or a scope, so it is not taken for the value
    cases ps with
    | nil => rw [List.flatMap_nil, hscope]
    | cons q qs =>
      have hnext : (q :: qs).flatMap predicateWords = "AND".toList :: (Term.scope q.scope).chars ::
          ((q.tag.toList.map Term.value).flatMap fun t => ["AND".toList, t.chars]) ++
            qs.flatMap predicateWords := rfl
      rw [hnext, List.cons_append, List.cons_append]
      dsimp only
      rw [after?_value_scope]
      dsimp only
      rw [hscope]

theorem readPredicates_words (ps : List TagPredicate) :
    readPredicates (ps.flatMap predicateWords) = some ps := by
  induction ps with
  | nil => rfl
  | cons p ps ih => rw [readPredicates_cons, ih, Option.map_some]

theorem parse?_query (kind : Kind) (tags : List TagPredicate) :
    parse? (query kind tags) = some (kind.backendType, tags) := by
  have htype : after? "resource_type:".toList (Term.resourceType kind.backendType).chars =
      some kind.backendType.toList := after?_append _ _
  rw [parse?, words_query, intersperse_terms]
  dsimp only
  rw [htype, Option.bind_some, readPredicates_words, Option.map_some, String.ofList_toList]

/-- A query's text, split at the spaces that no backslash escapes, is its terms with `AND` between
them, and its terms are those that were asked for, whatever scopes and values there are.  The
type's name and the predicates are read back from it, so that it is the text of no other query. -/
theorem query_reads_back (kind : Kind) (tags : List TagPredicate) :
    words (query kind tags).toList =
        ((terms kind tags).map Term.chars).intersperse "AND".toList ∧
      terms? (query kind tags) = some (terms kind tags) ∧
      parse? (query kind tags) = some (kind.backendType, tags) ∧
      ∀ kind' tags', query kind' tags' = query kind tags ↔ kind' = kind ∧ tags' = tags := by
  refine ⟨words_query kind tags, terms?_query kind tags, parse?_query kind tags,
    fun kind' tags' => ⟨fun h => ?_, ?_⟩⟩
  · have hparsed := congrArg parse? h
    rw [parse?_query, parse?_query, Option.some_inj, Prod.mk.injEq] at hparsed
    exact ⟨Kind.backendType_injective hparsed.1, hparsed.2⟩
  · rintro ⟨rfl, rfl⟩
    rfl

/-- A value that spells out another term stays a value. -/
example : parse? (query .group [.exact "s" "t AND tags.scope:\\x", .any ""]) =
    some ("Group", [.exact "s" "t AND tags.scope:\\x", .any ""]) := by decide +kernel

end NetSweep.Search
