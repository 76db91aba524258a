import NetSweep.Backend

/-!
# The in-memory backend

A store keeps objects under their keys and enforces the two rules of deletion: an object that
contains another stays, and so does an object that another one mentions, by path for the policy
API and by id for the manager API.  Both refusals say "in use".  Any single operation can be made
to fail on purpose.
-/

namespace NetSweep

/-- The objects of a backend, what was done to them, and the failures arranged in advance. -/
structure Store where
  /-- the objects in ascending key order -/
  objects : List (Address × Resource)
  /-- the successful deletes, oldest first -/
  deleted : List (Kind × String)
  /-- the successful patches, oldest first -/
  patched : List (Kind × String)
  /-- arranged failures, the newest first -/
  deleteFailures : List ((Kind × String) × BackendError)
  patchFailures : List ((Kind × String) × BackendError)
  /-- failures of lists and searches -/
  listFailures : List (Kind × BackendError)
  versionFailure : Option BackendError

namespace Store

def empty : Store :=
  { objects := [], deleted := [], patched := [], deleteFailures := [], patchFailures := [],
    listFailures := [], versionFailure := none }

def find? (s : Store) (key : Address) : Option Resource := Assoc.find? key s.objects

def ids (s : Store) (kind : Kind) : List String :=
  (s.objects.filter (·.1.kind = kind)).map (·.1.id)

/-- An object as it is stored under a key: the type name and, for the policy API, the path are
filled in where they are missing. -/
def complete (key : Address) (r : Resource) : Resource :=
  { r with
    path := if key.kind.api = .policy then some (r.path.getD key.path) else r.path
    resourceType := some (r.resourceType.getD key.kind.backendType) }

/-- Stores an object inside its parents and says its path; nothing is stored when the number of
parents is not the kind's. -/
def insert (s : Store) (kind : Kind) (parents : List String) (r : Resource) :
    Option (String × Store) :=
  if parents.length = kind.parentCount then
    let key : Address := { kind, parents, id := r.id }
    some (r.path.getD key.path,
      { s with objects := Assoc.insert key (complete key r) s.objects })
  else none

def failDelete (s : Store) (kind : Kind) (id : String) (e : BackendError) : Store :=
  { s with deleteFailures := ((kind, id), e) :: s.deleteFailures }

def failPatch (s : Store) (kind : Kind) (id : String) (e : BackendError) : Store :=
  { s with patchFailures := ((kind, id), e) :: s.patchFailures }

/-- Arranges for the lists and searches of a kind to fail. -/
def failList (s : Store) (kind : Kind) (e : BackendError) : Store :=
  { s with listFailures := (kind, e) :: s.listFailures }

def failVersion (s : Store) (e : BackendError) : Store := { s with versionFailure := some e }

/-! ## Operations -/

def list (passthrough : Bool) (kind : Kind) (parents : List String) (s : Store) :
    Answer (List Resource) :=
  match requireAccess passthrough kind parents, Assoc.find? kind s.listFailures with
  | .error e, _ => .error e
  | .ok (), some e => .error e
  | .ok (), none =>
    .ok ((s.objects.filter (fun o => o.1.kind = kind ∧ o.1.parents = parents)).map Prod.snd)

def get (passthrough : Bool) (kind : Kind) (parents : List String) (id : String) (s : Store) :
    Answer Resource :=
  match requireAccess passthrough kind parents with
  | .error e => .error e
  | .ok () =>
    match s.find? { kind, parents, id } with
    | some r => .ok r
    | none => .error (.notFound kind id)

/-- What other objects mention an object by. -/
def handle (kind : Kind) (id : String) (r : Resource) : String :=
  match kind.api with
  | .manager => id
  | .policy => r.path.getD ""

def childOf? (s : Store) (key : Address) : Option Address :=
  (s.objects.find? (fun o => key.contains o.1)).map Prod.fst

/-- The first object other than a key's own that mentions a string. -/
def referrerOf? (s : Store) (key : Address) (target : String) : Option Address :=
  (s.objects.find? (fun o => o.1 ≠ key ∧ o.2.mentions target)).map Prod.fst

/-- Why the object of a key cannot be deleted now, if it cannot. -/
def obstacle? (s : Store) (key : Address) (r : Resource) : Option BackendError :=
  match Assoc.find? (key.kind, key.id) s.deleteFailures with
  | some e => some e
  | none =>
    match s.childOf? key with
    | some child =>
      some (.inUse key.kind key.id ("still contains " ++ child.kind.name ++ " " ++ child.id))
    | none =>
      match s.referrerOf? key (handle key.kind key.id r) with
      | some other =>
        some (.inUse key.kind key.id ("referenced by " ++ other.kind.name ++ " " ++ other.id))
      | none => none

def delete (passthrough : Bool) (kind : Kind) (parents : List String) (id : String)
    (s : Store) : Answer Unit × Store :=
  match requireAccess passthrough kind parents with
  | .error e => (.error e, s)
  | .ok () =>
    let key : Address := { kind, parents, id }
    match s.find? key with
    | none => (.error (.notFound kind id), s)
    | some r =>
      match s.obstacle? key r with
      | some e => (.error e, s)
      | none =>
        (.ok (), { s with
          objects := Assoc.erase key s.objects
          deleted := s.deleted ++ [(kind, id)] })

/-- An object with fields laid over it; it may no longer be one. -/
def patchResource? (r : Resource) (body : Json) : Option Resource :=
  Resource.ofJson? (r.toJson.merge body)

def patch (passthrough : Bool) (kind : Kind) (parents : List String) (id : String)
    (body : Json) (s : Store) : Answer Unit × Store :=
  match requireAccess passthrough kind parents with
  | .error e => (.error e, s)
  | .ok () =>
    match Assoc.find? (kind, id) s.patchFailures with
    | some e => (.error e, s)
    | none =>
      let key : Address := { kind, parents, id }
      match s.find? key with
      | none => (.error (.notFound kind id), s)
      | some r =>
        match patchResource? r body with
        | none => (.error (.invalidResponse "the patched object cannot be read"), s)
        | some r =>
          (.ok (), { s with
            objects := Assoc.insert key r s.objects
            patched := s.patched ++ [(kind, id)] })

def search (passthrough : Bool) (kind : Kind) (tags : List TagPredicate) (s : Store) :
    Answer (List Resource) :=
  match requireApi passthrough kind, Assoc.find? kind s.listFailures with
  | .error e, _ => .error e
  | .ok (), some e => .error e
  | .ok (), none =>
    .ok ((s.objects.filter (fun o => o.1.kind = kind ∧ o.2.hasAllTags tags)).map Prod.snd)

def version (s : Store) : Answer String :=
  match s.versionFailure with
  | some e => .error e
  | none => .ok "4.1.2.0.0.22589037"

def backend (passthrough : Bool) : Backend Store where
  allowsPassthrough := passthrough
  version s := (s.version, s)
  list kind parents s := (s.list passthrough kind parents, s)
  get kind parents id s := (s.get passthrough kind parents id, s)
  delete := Store.delete passthrough
  patch := Store.patch passthrough
  search kind tags s := (s.search passthrough kind tags, s)

end Store

end NetSweep
