import NetSweep.Authority
import NetSweep.Resource

/-!
# Ownership

An object belongs to the orchestrator if one of its tags meets the marker and, when an authority
is given and the object's kind has rules of narrowing, one of the rules finds the object in the
authority.  Kinds without a table of their own have no rules and are judged by their tags alone.
-/

namespace NetSweep

/-- How an object is looked up in the orchestrator's database. -/
inductive Narrowing where
  /-- the object's id is an id of the model -/
  | id (model : Authority.Model)
  /-- the first bytes of the object's id are an id of the model -/
  | idStart (model : Authority.Model) (length : Nat)
  /-- the id of the object's attachment is an id of the model -/
  | attachmentId (model : Authority.Model)
deriving DecidableEq, Repr

namespace Narrowing

/-- The length of the UUID that derived ids begin with. -/
def uuidLength : Nat := 36

/-- The characters that make up the first bytes of a text in UTF-8; there are none when the text
is shorter or a character would be split. -/
def firstBytes? : Nat → List Char → Option (List Char)
  | 0, _ => some []
  | _ + 1, [] => none
  | n + 1, c :: rest =>
    if c.utf8Size ≤ n + 1 then (firstBytes? (n + 1 - c.utf8Size) rest).map (c :: ·) else none

def finds (knows : Knowledge) (r : Resource) : Narrowing → Bool
  | .id model => knows model r.id
  | .idStart model length =>
    match firstBytes? length r.id.toList with
    | some start => knows model (String.ofList start)
    | none => false
  | .attachmentId model =>
    match r.attachmentId with
    | some attached => knows model attached
    | none => false

end Narrowing

/-- Whether the authority lets an object through: one of the rules finds it, or there is nothing
to look it up by. -/
def withinAuthority (authority : Option Knowledge) (rules : List Narrowing)
    (r : Resource) : Bool :=
  match authority with
  | none => true
  | some knows => rules.isEmpty || rules.any (·.finds knows r)

def ownedAmong (marker : TagPredicate) (authority : Option Knowledge)
    (rules : List Narrowing) (resources : List Resource) : List Resource :=
  resources.filter fun r => r.hasTag marker && withinAuthority authority rules r

theorem mem_ownedAmong {marker : TagPredicate} {authority : Option Knowledge}
    {rules : List Narrowing} {resources : List Resource} {r : Resource} :
    r ∈ ownedAmong marker authority rules resources ↔
      r ∈ resources ∧ r.hasTag marker = true ∧ withinAuthority authority rules r = true := by
  simp [ownedAmong]

end NetSweep
