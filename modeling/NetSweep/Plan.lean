import NetSweep.Assoc
import NetSweep.Json.Basic
import NetSweep.Kind

/-!
# Cleanup plans

The backend keeps an object while anything contains or mentions it, so cleanup goes leaves
first.  A plan states the order: categories, each with the kinds it deletes, in turn.  `check`
accepts a plan when no category comes twice and, wherever a kind is deleted, every kind it
depends on that the plan deletes at all is still deleted later.
-/

namespace NetSweep

/-- A group of kinds that are cleaned up together. -/
inductive Category where
  | securityGroups | segmentInterfaces | segments | qosPolicies | loadBalancers | dhcp
  | tier1Routers
deriving DecidableEq, Repr

/-- What a failed delete does to the rest of its category. -/
inductive FailurePolicy where
  /-- the failure is recorded and the next object is taken on -/
  | isolate
  /-- the category ends, and with it the run -/
  | propagate
deriving DecidableEq, Repr

namespace FailurePolicy

def name : FailurePolicy → String
  | isolate => "isolate"
  | propagate => "propagate"

def ofName? : String → Option FailurePolicy
  | "isolate" => some isolate
  | "propagate" => some propagate
  | _ => none

end FailurePolicy

namespace Category

def all : List Category :=
  [securityGroups, segmentInterfaces, segments, qosPolicies, loadBalancers, dhcp, tier1Routers]

instance : LT Category where lt a b := a.ctorIdx < b.ctorIdx

instance : DecidableLT Category := fun a b =>
  inferInstanceAs (Decidable (a.ctorIdx < b.ctorIdx))

def name : Category → String
  | securityGroups => "security_groups"
  | segmentInterfaces => "segment_interfaces"
  | segments => "segments"
  | qosPolicies => "qos_policies"
  | loadBalancers => "load_balancers"
  | dhcp => "dhcp"
  | tier1Routers => "tier1_routers"

def ofName? (s : String) : Option Category := all.find? (·.name == s)

def defaultPolicy : Category → FailurePolicy
  | qosPolicies => .propagate
  | _ => .isolate

end Category

abbrev Policies := List (Category × FailurePolicy)

namespace Policies

def of (policies : Policies) (c : Category) : FailurePolicy :=
  (Assoc.find? c policies).getD c.defaultPolicy

/-- Reads policies from an object of names; an unknown name is refused. -/
def ofJson? (v : Json) : Option Policies :=
  v.object?.bind fun members =>
    (members.mapM fun m =>
      (Category.ofName? m.1).bind fun c =>
        (m.2.constantName?.bind FailurePolicy.ofName?).map fun p => (c, p)).map Assoc.ofList

end Policies

/-- A category and the kinds it deletes, in order. -/
structure Plan.Step where
  category : Category
  kinds : List Kind
deriving DecidableEq, Repr

inductive Plan.Refusal where
  | duplicateCategory (category : Category)
  /-- the kind is deleted although nothing later deletes its dependency, which comes before -/
  | outOfOrder (category : Category) (kind dependency : Kind)
deriving DecidableEq, Repr

def Plan.Refusal.message : Plan.Refusal → String
  | duplicateCategory category =>
    "category " ++ category.name ++ " appears more than once in the plan"
  | outOfOrder category kind dependency =>
    kind.name ++ " (in " ++ category.name ++ ") must be deleted before " ++ dependency.name ++
      ", but nothing after it deletes " ++ dependency.name

/-- The order in which categories are cleaned up. -/
structure Plan where
  steps : List Plan.Step
deriving DecidableEq, Repr

namespace Plan

open Kind in
def firewallKinds : List Kind := [gatewayPolicy, group, service]

open Kind in
/-- The order that cleanup normally runs in. -/
def standard : Plan where
  steps :=
    [{ category := .securityGroups, kinds := [communicationMap, group] },
     { category := .segmentInterfaces, kinds := [segmentDhcpStaticBinding, tier1SegmentInterface] },
     { category := .segments, kinds := portBindings ++ [segmentPort, logicalPort, segment] },
     { category := .qosPolicies, kinds := [qosProfile] },
     { category := .loadBalancers
       kinds := firewallKinds ++ [lbVirtualServer] ++ lbProfiles ++ [lbService, lbPool]
         ++ lbMonitors ++ [certificate] },
     { category := .dhcp, kinds := [logicalPort, dhcpServer] },
     { category := .tier1Routers
       kinds := firewallKinds ++ [tier1NatRule, tier1StaticRoute, tier1LocaleService, tier1] }]

/-- Every deletion of the plan, in order, with its category. -/
def order (p : Plan) : List (Category × Kind) :=
  p.steps.flatMap fun s => s.kinds.map fun k => (s.category, k)

/-- The first category that occurs in what comes before it. -/
def repeated? (seen : List Category) : List Category → Option Category
  | [] => none
  | c :: rest => if c ∈ seen then some c else repeated? (c :: seen) rest

/-- The first deletion with a dependency that is among the plan's kinds but not among those
deleted later, and the first such dependency. -/
def misplaced? (kinds : List Kind) : List (Category × Kind) → Option Plan.Refusal
  | [] => none
  | (c, k) :: later =>
    match k.dependencies.find? (fun d => d ∈ kinds ∧ d ∉ later.map Prod.snd) with
    | some d => some (.outOfOrder c k d)
    | none => misplaced? kinds later

/-- Accepts the plans that delete leaves first, each category once. -/
def check (p : Plan) : Except Plan.Refusal Unit :=
  match repeated? [] (p.steps.map Plan.Step.category) with
  | some c => .error (.duplicateCategory c)
  | none =>
    match misplaced? (p.order.map Prod.snd) p.order with
    | some e => .error e
    | none => .ok ()

end Plan

end NetSweep
