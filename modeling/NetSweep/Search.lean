import NetSweep.Kind
import NetSweep.Resource

/-!
# Search queries

A query is a conjunction of terms: the backend's type name, then for each predicate its scope and
its value, if it has one.  In the text of a query, characters with a meaning of their own are
escaped by a backslash, and terms are joined by ` AND `.  `parse?` reads such a text back.
-/

namespace NetSweep.Search

inductive Term where
  /-- the object has this type -/
  | resourceType (name : String)
  /-- some tag of the object has this scope -/
  | scope (wanted : String)
  /-- some tag of the object has this value -/
  | value (wanted : String)
deriving DecidableEq, Repr

def Term.holds (r : Resource) : Term → Bool
  | .resourceType name => r.resourceType == some name
  | .scope wanted => r.tags.any (·.scope == wanted)
  | .value wanted => r.tags.any (·.tag == wanted)

def predicateTerms (p : TagPredicate) : List Term :=
  .scope p.scope :: p.tag.toList.map .value

/-- The terms that ask for the objects of a kind that meet every predicate. -/
def terms (kind : Kind) (tags : List TagPredicate) : List Term :=
  .resourceType kind.backendType :: tags.flatMap predicateTerms

/-! ## Text -/

/-- The characters with a meaning of their own. -/
def reserved : List Char :=
  ['+', '-', '=', '&', '|', '>', '<', '!', '(', ')', '\x7b', '\x7d', '[', ']', '^', '"', '~', '*',
   '?', ':', '\\', '/', ' ']

def escape (cs : List Char) : List Char :=
  cs.flatMap fun c => if c ∈ reserved then ['\\', c] else [c]

/-- A term as text.  Type names are written as they are. -/
def Term.chars : Term → List Char
  | .resourceType name => "resource_type:".toList ++ name.toList
  | .scope wanted => "tags.scope:".toList ++ escape wanted.toList
  | .value wanted => "tags.tag:".toList ++ escape wanted.toList

def chars : List Term → List Char
  | [] => []
  | [t] => t.chars
  | t :: rest => t.chars ++ " AND ".toList ++ chars rest

def query (kind : Kind) (tags : List TagPredicate) : String :=
  String.ofList (chars (terms kind tags))

/-! ## Reading -/

/-- The words of a text: it is split at each space that no backslash escapes. -/
def words : List Char → List (List Char)
  | [] => [[]]
  | '\\' :: c :: rest =>
    match words rest with
    | w :: ws => ('\\' :: c :: w) :: ws
    | [] => [['\\', c]]
  | c :: rest =>
    if c = ' ' then [] :: words rest
    else
      match words rest with
      | w :: ws => (c :: w) :: ws
      | [] => [[c]]

def unescape : List Char → List Char
  | '\\' :: c :: rest => c :: unescape rest
  | c :: rest => c :: unescape rest
  | [] => []

/-- What follows a text in another, if that begins with it. -/
def after? : List Char → List Char → Option (List Char)
  | [], cs => some cs
  | a :: as, c :: cs => if a = c then after? as cs else none
  | _ :: _, [] => none

/-- Predicates from the words that follow the type. -/
def readPredicates : List (List Char) → Option (List TagPredicate)
  | [] => some []
  | [_] => none
  | joint :: scope :: rest =>
    if joint = "AND".toList then
      match after? "tags.scope:".toList scope with
      | none => none
      | some scope =>
        match rest with
        | joint' :: value :: rest' =>
          match after? "tags.tag:".toList value with
          | some value =>
            if joint' = "AND".toList then
              (readPredicates rest').map fun ps =>
                { scope := String.ofList (unescape scope)
                  tag := some (String.ofList (unescape value)) } :: ps
            else none
          | none =>
            (readPredicates (joint' :: value :: rest')).map fun ps =>
              { scope := String.ofList (unescape scope), tag := none } :: ps
        | rest =>
          (readPredicates rest).map fun ps =>
            { scope := String.ofList (unescape scope), tag := none } :: ps
    else none

def parse? (text : String) : Option (String × List TagPredicate) :=
  match words text.toList with
  | [] => none
  | w :: rest =>
    (after? "resource_type:".toList w).bind fun name =>
      (readPredicates rest).map fun ps => (String.ofList name, ps)

end NetSweep.Search
