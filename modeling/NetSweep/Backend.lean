import NetSweep.BackendError
import NetSweep.Resource

/-!
# Backends

A backend is a state machine: each call takes a state and gives an answer and the next state.
Cleanup runs against any backend at all; the library has two, the in-memory `Store` and the
client that talks to a manager over HTTP.
-/

namespace NetSweep

/-- What an operation of the backend gives back. -/
abbrev Answer (α : Type) := Except BackendError α

/-- The operations that cleanup needs of a backend with states `σ`.  Enclosing ids are given
outermost first. -/
structure Backend (σ : Type) where
  /-- whether kinds of the manager API can be reached -/
  allowsPassthrough : Bool
  /-- the backend's version, asked for before anything else -/
  version : σ → Answer String × σ
  /-- the objects of a kind inside the given parents -/
  list : Kind → List String → σ → Answer (List Resource) × σ
  /-- one object -/
  get : Kind → List String → String → σ → Answer Resource × σ
  /-- removes an object -/
  delete : Kind → List String → String → σ → Answer Unit × σ
  /-- lays fields over an object's; null removes a field -/
  patch : Kind → List String → String → Json → σ → Answer Unit × σ
  /-- the objects of a kind, wherever they are, that meet every predicate -/
  search : Kind → List TagPredicate → σ → Answer (List Resource) × σ

/-! ## Access -/

/-- Whether a kind can be reached, given whether passthrough is allowed. -/
def requireApi (passthrough : Bool) (kind : Kind) : Answer Unit :=
  if kind.api = .manager ∧ ¬ passthrough then .error (.passthroughDisabled kind) else .ok ()

/-- Whether an address can be reached: the kind, then the number of parents. -/
def requireAccess (passthrough : Bool) (kind : Kind) (parents : List String) : Answer Unit :=
  match requireApi passthrough kind with
  | .error e => .error e
  | .ok () =>
    if parents.length = kind.parentCount then .ok ()
    else .error (.wrongParentCount kind kind.parentCount parents.length)

/-! ## Addresses -/

structure Address where
  kind : Kind
  parents : List String
  id : String
deriving DecidableEq, Repr

namespace Address

/-- Keys are ordered by kind, then by enclosing ids, then by id. -/
instance : LT Address where
  lt a b := a.kind.rank < b.kind.rank ∨
    a.kind.rank = b.kind.rank ∧
      (a.parents < b.parents ∨ a.parents = b.parents ∧ a.id < b.id)

instance : DecidableLT Address := fun a b =>
  inferInstanceAs (Decidable (a.kind.rank < b.kind.rank ∨
    a.kind.rank = b.kind.rank ∧
      (a.parents < b.parents ∨ a.parents = b.parents ∧ a.id < b.id)))

/-- Whether the object of the second key lies directly inside that of the first. -/
def contains (outer inner : Address) : Bool :=
  inner.kind.parent? = some outer.kind ∧ inner.parents = outer.parents ++ [outer.id]

def path (k : Address) : String :=
  "/" ++ "/".intercalate (Kind.fill k.kind.collection k.parents) ++ "/" ++ k.id

end Address

end NetSweep
