import NetSweep.Json.Basic

/-!
# Tags

A tag is a scope with a value.  A predicate asks for a scope and, optionally, for one value: the
same form says "created by the orchestrator" (scope alone) and "belongs to this router" (scope
and value).
-/

namespace NetSweep

structure Tag where
  scope : String
  tag : String
deriving DecidableEq, Repr

namespace Tag

def text (t : Tag) : String := t.scope ++ "=" ++ t.tag

def le (a b : Tag) : Bool := a.scope < b.scope || (a.scope == b.scope && !(b.tag < a.tag))

def toJson (t : Tag) : Json := .object [("scope", .string t.scope), ("tag", .string t.tag)]

/-- Reads a tag; a missing scope or value is empty. -/
def ofJson? (v : Json) : Option Tag :=
  match v.fields? ["scope", "tag"] with
  | some [scope, tag] =>
    (Json.stringOr? "" scope).bind fun scope =>
      (Json.stringOr? "" tag).map fun tag => { scope, tag }
  | _ => none

@[simp] theorem ofJson?_toJson (t : Tag) : ofJson? t.toJson = some t := by
  simp [ofJson?, toJson, Json.fields?, Assoc.find?_cons, Json.stringOr?, Json.string?]

end Tag

structure TagPredicate where
  scope : String
  /-- the value, when only one will do -/
  tag : Option String
deriving DecidableEq, Repr

namespace TagPredicate

def any (scope : String) : TagPredicate := { scope, tag := none }

def exact (scope tag : String) : TagPredicate := { scope, tag := some tag }

def holds (p : TagPredicate) (t : Tag) : Bool :=
  t.scope == p.scope &&
    match p.tag with
    | none => true
    | some value => value == t.tag

/-- The predicate as `scope=value`, a star standing for any value. -/
def text (p : TagPredicate) : String := p.scope ++ "=" ++ p.tag.getD "*"

def toJson (p : TagPredicate) : Json :=
  .object (("scope", .string p.scope) :: (p.tag.toList.map fun t => ("tag", .string t)))

def ofJson? (v : Json) : Option TagPredicate :=
  match v.fields? ["scope", "tag"] with
  | some [some (.string scope), tag] => (Json.optString? tag).map fun tag => { scope, tag }
  | _ => none

def listOfJson? (v : Json) : Option (List TagPredicate) := v.array?.bind (·.mapM ofJson?)

end TagPredicate

/-- The scope of the tag that the orchestrator puts on every object it creates. -/
def createdScope : String := "os-api-version"

/-- The scope that links firewall objects to the router they serve. -/
def routerScope : String := "os-neutron-router-id"

/-- The scope that links firewall objects to the load balancer they serve. -/
def loadBalancerScope : String := "os-lbaas-lb-id"

/-- The scope that links logical ports to their network. -/
def networkScope : String := "os-neutron-net-id"

end NetSweep
