import NetSweep.Backend
import NetSweep.Log
import NetSweep.Ownership
import NetSweep.Report

/-!
# Runs of cleanup

Cleanup is a task: it takes the state of a run, calls the backend, and either goes on or ends
with an error; the state it reached is kept in both cases.  Everything it asked of the backend
stands in the run's journal with the answer, in the order of the calls.  A change that a dry run
withholds is in the journal too, without an answer.
-/

namespace NetSweep

/-- Why cleanup of a category, and with it the run, ended early. -/
inductive CleanupError where
  | listFailed (kind : Kind) (cause : BackendError)
  | deleteFailed (kind : Kind) (id : String) (cause : BackendError)
  | invalidPlan (cause : Plan.Refusal)
deriving DecidableEq, Repr

namespace CleanupError

def message : CleanupError → String
  | listFailed kind _ => "failed to list " ++ kind.name
  | deleteFailed kind id _ => "failed to delete " ++ kind.name ++ " " ++ id
  | invalidPlan _ => "invalid cleanup plan"

def causeMessage : CleanupError → String
  | listFailed _ cause | deleteFailed _ _ cause => cause.message
  | invalidPlan cause => cause.message

end CleanupError

namespace Cleanup

/-- Why an object is deleted. -/
inductive Role where
  /-- the category answers for it and reports the outcome -/
  | owned
  /-- it only serves an object of the category -/
  | auxiliary
  /-- other gateways may be using it -/
  | shared
deriving DecidableEq, Repr

/-- What was asked of the backend, and its answer. -/
inductive Event where
  | listed (kind : Kind) (parents : List String) (answer : Answer (List Resource))
  | searched (kind : Kind) (tags : List TagPredicate) (answer : Answer (List Resource))
  /-- no answer: withheld in a dry run -/
  | deletion (role : Role) (target : Address) (answer : Option (Answer Unit))
  /-- no answer: withheld in a dry run -/
  | update (target : Address) (body : Json) (answer : Option (Answer Unit))

/-- What a run leaves behind. -/
structure Trace (σ : Type) where
  backend : σ
  journal : List Event
  log : List Log.Record

structure Run (σ : Type) extends Trace σ where
  report : Report.Section

def Task (σ α : Type) : Type := Run σ → Except CleanupError α × Run σ

namespace Task

variable {σ α β : Type}

protected def pure (a : α) : Task σ α := fun r => (.ok a, r)

/-- One task after another; the second is left out when the first ends with an error. -/
protected def bind (t : Task σ α) (f : α → Task σ β) : Task σ β := fun r =>
  match t r with
  | (.ok a, r) => f a r
  | (.error e, r) => (.error e, r)

instance : Monad (Task σ) where
  pure := Task.pure
  bind := Task.bind

def fail (e : CleanupError) : Task σ α := fun r => (.error e, r)

def modify (f : Run σ → Run σ) : Task σ Unit := fun r => (.ok (), f r)

def each (items : List α) (f : α → Task σ Unit) : Task σ Unit :=
  match items with
  | [] => pure ()
  | a :: rest => do
    f a
    each rest f

@[simp] theorem pure_apply (a : α) (r : Run σ) : (pure a : Task σ α) r = (.ok a, r) := rfl

theorem bind_apply (t : Task σ α) (f : α → Task σ β) (r : Run σ) :
    (t >>= f) r = match t r with
      | (.ok a, r) => f a r
      | (.error e, r) => (.error e, r) := rfl

@[simp] theorem fail_apply (e : CleanupError) (r : Run σ) :
    (fail e : Task σ α) r = (.error e, r) := rfl

@[simp] theorem modify_apply (f : Run σ → Run σ) (r : Run σ) :
    (modify f : Task σ Unit) r = (.ok (), f r) := rfl

private theorem id_map_apply (t : Task σ α) : id <$> t = t := by
  funext r
  show (t >>= fun a => pure (id a)) r = t r
  rw [bind_apply]
  rcases t r with ⟨_ | _, _⟩ <;> rfl

private theorem bind_assoc_apply {γ : Type} (t : Task σ α) (f : α → Task σ β)
    (g : β → Task σ γ) : t >>= f >>= g = t >>= fun a => f a >>= g := by
  funext r
  simp only [bind_apply]
  rcases t r with ⟨_ | _, _⟩ <;> rfl

instance : LawfulMonad (Task σ) :=
  LawfulMonad.mk' (Task σ) id_map_apply (fun _ _ => rfl) bind_assoc_apply

end Task

end Cleanup

end NetSweep
