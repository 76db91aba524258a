import NetSweep.Cleanup.Task
import NetSweep.Text.Quoted

/-!
# What a category can do

The steps that the procedures of the categories are made of: finding the objects that the
orchestrator owns, deleting an object in one of three roles, and detaching an object by an
update.  Nothing else calls the backend.

A delete or update that a dry run withholds goes into the journal without an answer.  Only two
outcomes end a category: a list or search that fails, and, under the policy `propagate`, the
failed delete of an object that the category answers for.
-/

namespace NetSweep

structure Cleanup.Config where
  /-- the policy domain that holds groups and gateway policies -/
  domain : String
  /-- what marks an object as created by the orchestrator -/
  marker : TagPredicate
  /-- policies that differ from the categories' defaults -/
  policies : Policies
  /-- candidates are found and reported, and nothing is changed -/
  dryRun : Bool
deriving DecidableEq, Repr

/-- The policy domain of the orchestrator's security objects, unless configured otherwise. -/
def defaultDomain : String := "default"

namespace Cleanup

def Config.default : Config :=
  { domain := defaultDomain, marker := .any createdScope, policies := [], dryRun := false }

/-- Everything that stays fixed while a category is cleaned up. -/
structure Setting (σ : Type) where
  backend : Backend σ
  authority : Option Knowledge
  config : Config
  policy : FailurePolicy

namespace Setting

variable {σ : Type} (s : Setting σ)

def note (record : Log.Record) : Task σ Unit :=
  .modify fun r => { r with log := r.log ++ [record] }

def enter (event : Event) : Task σ Unit :=
  .modify fun r => { r with journal := r.journal ++ [event] }

def tally (f : Report.Section → Report.Section) : Task σ Unit :=
  .modify fun r => { r with report := f r.report }

/-- Runs an operation of the backend and enters it with its answer. -/
def ask {α : Type} (operation : σ → Answer α × σ) (event : Answer α → Event) :
    Task σ (Answer α) := fun r =>
  let (answer, backend) := operation r.backend
  (.ok answer, { r with backend, journal := r.journal ++ [event answer] })

def named (kind : Kind) (id : String) : List (String × String) := [("kind", kind.name), ("id", id)]

/-! ## Finding -/

def askList (kind : Kind) (parents : List String) : Task σ (Answer (List Resource)) :=
  ask (s.backend.list kind parents) (.listed kind parents)

def askSearch (kind : Kind) (tags : List TagPredicate) : Task σ (Answer (List Resource)) :=
  ask (s.backend.search kind tags) (.searched kind tags)

def list (kind : Kind) (parents : List String) : Task σ (List Resource) := do
  match ← s.askList kind parents with
  | .ok resources => pure resources
  | .error e => .fail (.listFailed kind e)

/-- The objects of a kind inside their parents; none if the parents are gone. -/
def listOrNone (kind : Kind) (parents : List String) : Task σ (List Resource) := do
  match ← s.askList kind parents with
  | .ok resources => pure resources
  | .error e =>
    if e.isNotFound then
      note (Log.debug "container is gone, nothing to list"
        [("kind", kind.name), ("parents", Text.quotedList parents)])
      pure []
    else .fail (.listFailed kind e)

def selectOwned (kind : Kind) (rules : List Narrowing) (resources : List Resource) :
    Task σ (List Resource) := do
  let owned := ownedAmong s.config.marker s.authority rules resources
  note (Log.debug "found owned objects"
    [("kind", kind.name), ("total", Decimal.natText resources.length),
     ("owned", Decimal.natText owned.length)])
  pure owned

def findOwned (kind : Kind) (parents : List String) (rules : List Narrowing) :
    Task σ (List Resource) := do
  let resources ← s.list kind parents
  s.selectOwned kind rules resources

def findOwnedOrNone (kind : Kind) (parents : List String) (rules : List Narrowing) :
    Task σ (List Resource) := do
  let resources ← s.listOrNone kind parents
  s.selectOwned kind rules resources

/-! ## Changing -/

/-- Asks for a delete, unless this is a dry run. -/
def askDelete (role : Role) (target : Address) : Task σ (Option (Answer Unit)) :=
  if s.config.dryRun then do
    enter (.deletion role target none)
    pure none
  else do
    let answer ← ask (s.backend.delete target.kind target.parents target.id)
      (fun a => .deletion role target (some a))
    pure (some answer)

def askUpdate (target : Address) (body : Json) : Task σ (Option (Answer Unit)) :=
  if s.config.dryRun then do
    enter (.update target body none)
    pure none
  else do
    let answer ← ask (s.backend.patch target.kind target.parents target.id body)
      (fun a => .update target body (some a))
    pure (some answer)

/-- Deletes an object that the category answers for, and reports the outcome. -/
def deleteOwned (kind : Kind) (parents : List String) (id : String) : Task σ Unit := do
  tally fun r => { r with candidates := r.candidates + 1 }
  match ← s.askDelete .owned { kind, parents, id } with
  | none => note (Log.info "would delete" (named kind id))
  | some (.ok ()) =>
    note (Log.info "deleted" (named kind id))
    tally fun r => { r with deleted := r.deleted + 1 }
  | some (.error e) =>
    if e.isNotFound then
      note (Log.debug "already gone" (named kind id))
      tally fun r => { r with alreadyGone := r.alreadyGone + 1 }
    else
      match s.policy with
      | .isolate =>
        note (Log.warning "failed to delete" (named kind id ++ [("error", e.message)]))
        tally fun r =>
          { r with failures := r.failures ++ [{ kind, id, message := e.message }] }
      | .propagate => .fail (.deleteFailed kind id e)

/-- Deletes an object that only serves one of the category's objects.  A failure goes no further
than the log: if the object is still there, deleting its container fails and is reported. -/
def deleteAuxiliary (kind : Kind) (parents : List String) (id : String) : Task σ Unit := do
  match ← s.askDelete .auxiliary { kind, parents, id } with
  | none => note (Log.debug "would delete" (named kind id))
  | some (.ok ()) => note (Log.debug "deleted" (named kind id))
  | some (.error e) =>
    if e.isNotFound then pure ()
    else
      note (Log.warning "failed to delete dependent object"
        (named kind id ++ [("error", e.message)]))

/-- Deletes an object that other gateways may be using; that one is still in use is no failure. -/
def deleteShared (kind : Kind) (parents : List String) (id : String) : Task σ Unit := do
  match ← s.askDelete .shared { kind, parents, id } with
  | none => note (Log.debug "would delete" (named kind id))
  | some (.ok ()) => note (Log.debug "deleted" (named kind id))
  | some (.error e) =>
    if e.isNotFound then pure ()
    else if e.isInUse then note (Log.debug "still in use by another gateway" (named kind id))
    else
      note (Log.warning "failed to delete firewall object"
        (named kind id ++ [("error", e.message)]))

/-- Lays fields over an object that serves one of the category's objects; a failure goes no
further than the log. -/
def update (kind : Kind) (parents : List String) (id : String) (body : Json) :
    Task σ Unit := do
  match ← s.askUpdate { kind, parents, id } body with
  | none => note (Log.debug "would update" (named kind id))
  | some (.ok ()) => pure ()
  | some (.error e) =>
    note (Log.warning "failed to update object" (named kind id ++ [("error", e.message)]))

end Setting

end Cleanup

end NetSweep
