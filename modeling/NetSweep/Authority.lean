import NetSweep.Json.Parser
import NetSweep.Json.Printer

/-!
# What the orchestrator knows

A second deployment may share the backend, so cleanup can be narrowed to the ids that the
orchestrator's own database still holds.  The ids are read once, model by model, into an
`Authority`, which then only answers whether an id is known.
-/

namespace NetSweep

/-- A table of the orchestrator's database whose ids can narrow cleanup. -/
inductive Authority.Model where
  | securityGroups | securityGroupRules | routers | networks | ports | dhcpServiceBindings
  | portMappings | qosPolicies
deriving DecidableEq, Repr

namespace Authority.Model

def all : List Authority.Model :=
  [securityGroups, securityGroupRules, routers, networks, ports, dhcpServiceBindings,
   portMappings, qosPolicies]

instance : LT Authority.Model where lt a b := a.ctorIdx < b.ctorIdx

instance : DecidableLT Authority.Model := fun a b =>
  inferInstanceAs (Decidable (a.ctorIdx < b.ctorIdx))

def name : Authority.Model → String
  | securityGroups => "security_groups"
  | securityGroupRules => "security_group_rules"
  | routers => "routers"
  | networks => "networks"
  | ports => "ports"
  | dhcpServiceBindings => "dhcp_service_bindings"
  | portMappings => "port_mappings"
  | qosPolicies => "qos_policies"

def ofName? (s : String) : Option Authority.Model := all.find? (·.name == s)

/-- The table and the column of it that hold the model's ids. -/
def storedIn : Authority.Model → String × String
  | securityGroups => ("securitygroups", "id")
  | securityGroupRules => ("securitygrouprules", "id")
  | routers => ("routers", "id")
  | networks => ("networks", "id")
  | ports => ("ports", "id")
  | dhcpServiceBindings => ("neutron_nsx_service_bindings", "nsx_service_id")
  | portMappings => ("neutron_nsx_port_mappings", "nsx_port_id")
  | qosPolicies => ("qos_policies", "id")

theorem mem_all (m : Authority.Model) : m ∈ all := by cases m <;> decide

theorem ofName?_name (m : Authority.Model) : ofName? m.name = some m := by cases m <;> rfl

end Authority.Model

/-- Whether the orchestrator knows an id of a model. -/
abbrev Knowledge := Authority.Model → String → Bool

/-- The ids of each model that was read, ascending and without repetition. -/
structure Authority where
  ids : List (Authority.Model × List String)
deriving DecidableEq, Repr

namespace Authority

/-- The ids of a list, ascending and without repetition. -/
def idSet (ids : List String) : List String := Assoc.keys (Assoc.ofList (ids.map (·, ())))

def empty : Authority := { ids := [] }

/-- The authority of a list of models with their ids; a later pair replaces an earlier one. -/
def ofPairs (pairs : List (Authority.Model × List String)) : Authority :=
  { ids := Assoc.ofList (pairs.map fun p => (p.1, idSet p.2)) }

def idsOf (a : Authority) (m : Authority.Model) : List String := (Assoc.find? m a.ids).getD []

def knows (a : Authority) : Knowledge := fun m id => (a.idsOf m).contains id

/-- Reads every model from a source; the first failure ends the reading. -/
def load {ε : Type} (source : Authority.Model → Except ε (List String)) : Except ε Authority :=
  match Authority.Model.all.mapM (fun m => (source m).map fun ids => (m, ids)) with
  | .error e => .error e
  | .ok pairs => .ok (ofPairs pairs)

def toJson (a : Authority) : Json :=
  .object (a.ids.map fun p => (p.1.name, Json.strings p.2))

def pairOfMember? (member : String × Json) : Option (Authority.Model × List String) :=
  (Authority.Model.ofName? member.1).bind fun m =>
    (member.2.array?.bind (·.mapM Json.string?)).map fun ids => (m, ids)

def ofJson? (v : Json) : Option Authority :=
  v.object?.bind fun members => (members.mapM pairOfMember?).map ofPairs

def parse? (text : String) : Option Authority := (Json.parseAs? .whole text).bind ofJson?

def render (a : Authority) : String := a.toJson.render

end Authority

end NetSweep
