import NetSweep.BackendError
import NetSweep.Plan

/-!
# Reports

What a cleanup run did, category by category.  The candidates of a category are the owned objects
it tried to delete, or in a dry run would have tried to.
-/

namespace NetSweep

open Decimal (natText)

structure FailedDelete where
  kind : Kind
  id : String
  message : String
deriving DecidableEq, Repr

def FailedDelete.text (f : FailedDelete) : String :=
  "failed to delete " ++ f.kind.name ++ " " ++ f.id ++ ": " ++ f.message

structure Report.Section where
  category : Category
  candidates : Nat
  deleted : Nat
  /-- objects that were gone when their turn came -/
  alreadyGone : Nat
  failures : List FailedDelete
  /-- why the category was not run at all -/
  skipped : Option String
deriving DecidableEq, Repr

namespace Report.Section

def fresh (category : Category) : Report.Section :=
  { category, candidates := 0, deleted := 0, alreadyGone := 0, failures := [], skipped := none }

def skip (category : Category) (reason : String) : Report.Section :=
  { fresh category with skipped := some reason }

def failuresOfKind (r : Report.Section) (kind : Kind) : List FailedDelete :=
  r.failures.filter (·.kind = kind)

def text (r : Report.Section) : String :=
  match r.skipped with
  | some reason => r.category.name ++ ": skipped (" ++ reason ++ ")\n"
  | none =>
    r.category.name ++ ": " ++ natText r.candidates ++ " candidates, " ++ natText r.deleted
      ++ " deleted, " ++ natText r.alreadyGone ++ " already gone, " ++ natText r.failures.length
      ++ " failed\n" ++ String.join (r.failures.map fun f => "    " ++ f.text ++ "\n")

end Report.Section

structure Report where
  dryRun : Bool
  categories : List Report.Section
deriving DecidableEq, Repr

namespace Report

def find? (r : Report) (category : Category) : Option Report.Section :=
  r.categories.find? (·.category = category)

def totalDeleted (r : Report) : Nat :=
  r.categories.foldr (fun c n => c.deleted + n) 0

def totalFailures (r : Report) : Nat :=
  r.categories.foldr (fun c n => c.failures.length + n) 0

def text (r : Report) : String :=
  (if r.dryRun then "dry run: nothing was deleted\n" else "")
    ++ String.join (r.categories.map Report.Section.text)
    ++ "total: " ++ natText r.totalDeleted ++ " deleted, " ++ natText r.totalFailures ++ " failed"

end Report

end NetSweep
