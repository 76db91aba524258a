/-!
# Kinds of orchestrator object

The objects that a migration reads from the source deployment and creates again at the
destination, with what the destination does not take from the source: fields that are read-only
there, that follow from other objects, or that are created separately.
-/

namespace NetSweep.Migration

inductive ObjectKind where
  | network | subnet | subnetpool | port | router | floatingip | securityGroup
  | securityGroupRule | qosPolicy | qosRule
  | loadbalancer | loadbalancerListener | loadbalancerPool | loadbalancerMember
  | loadbalancerHealthmonitor | loadbalancerL7policy | loadbalancerL7rule
  | firewallRule | firewallPolicy | firewallGroup | quota
deriving DecidableEq, Repr

namespace ObjectKind

def all : List ObjectKind :=
  [network, subnet, subnetpool, port, router, floatingip, securityGroup, securityGroupRule,
   qosPolicy, qosRule, loadbalancer, loadbalancerListener, loadbalancerPool, loadbalancerMember,
   loadbalancerHealthmonitor, loadbalancerL7policy, loadbalancerL7rule, firewallRule,
   firewallPolicy, firewallGroup, quota]

def name : ObjectKind → String
  | network => "network"
  | subnet => "subnet"
  | subnetpool => "subnetpool"
  | port => "port"
  | router => "router"
  | floatingip => "floatingip"
  | securityGroup => "security_group"
  | securityGroupRule => "security_group_rule"
  | qosPolicy => "qos_policy"
  | qosRule => "qos_rule"
  | loadbalancer => "loadbalancer"
  | loadbalancerListener => "loadbalancer_listener"
  | loadbalancerPool => "loadbalancer_pool"
  | loadbalancerMember => "loadbalancer_member"
  | loadbalancerHealthmonitor => "loadbalancer_healthmonitor"
  | loadbalancerL7policy => "loadbalancer_l7policy"
  | loadbalancerL7rule => "loadbalancer_l7rule"
  | firewallRule => "firewall_rule"
  | firewallPolicy => "firewall_policy"
  | firewallGroup => "firewall_group"
  | quota => "quota"

def ofName? (s : String) : Option ObjectKind := all.find? (·.name == s)

/-- Whether objects of the kind are created inside a load balancer. -/
def needsParent : ObjectKind → Bool
  | loadbalancerListener | loadbalancerPool | loadbalancerMember => true
  | _ => false

/-- The destination's collection in which objects of the kind take tags, if there is one. -/
def tagCollection : ObjectKind → Option String
  | network => some "networks"
  | subnet => some "subnets"
  | subnetpool => some "subnetpools"
  | port => some "ports"
  | router => some "routers"
  | floatingip => some "floatingips"
  | securityGroup => some "security-groups"
  | qosPolicy => some "qos/policies"
  | _ => none

def commonFields : List String :=
  ["updated_at", "created_at", "tags", "revision", "revision_number"]

def loadBalancingFields : List String :=
  ["created_at", "updated_at", "operating_status", "provisioning_status", "tags"]

def dropFields : ObjectKind → List String
  | network =>
    commonFields ++ ["status", "subnets", "availability_zones", "ipv4_address_scope",
      "ipv6_address_scope", "mtu"]
  | subnet => commonFields ++ ["advanced_service_providers", "service_types"]
  | subnetpool => commonFields ++ ["id", "ip_version"]
  | port =>
    commonFields ++ ["status", "binding:vif_details", "binding:vif_type", "binding:host_id",
      "vnic_index", "dns_assignment"]
  | router =>
    commonFields ++ ["status", "routes", "ha", "external_gateway_info", "router_type",
      "availability_zones", "distributed", "flavor_id"]
  | floatingip => commonFields ++ ["status", "router_id", "id"]
  | securityGroup => commonFields ++ ["policy"]
  | securityGroupRule => commonFields
  | qosPolicy => ["revision", "rules"]
  | qosRule => ["revision", "type", "qos_policy_id", "id"]
  | loadbalancer => loadBalancingFields ++ ["listeners", "pools", "vip_port_id", "flavor_id"]
  | loadbalancerListener =>
    loadBalancingFields ++ ["loadbalancers", "l7policies", "default_pool_id"]
  | loadbalancerPool =>
    loadBalancingFields ++ ["loadbalancers", "healthmonitor_id", "listeners", "members"]
  | loadbalancerMember => loadBalancingFields
  | loadbalancerHealthmonitor => loadBalancingFields ++ ["max_retries_down", "pools"]
  | loadbalancerL7policy => loadBalancingFields ++ ["rules"]
  | loadbalancerL7rule => loadBalancingFields
  | firewallRule => commonFields ++ ["firewall_policy_id"]
  | firewallPolicy => commonFields
  | firewallGroup => commonFields ++ ["status"]
  | quota => ["id"]

theorem mem_all (k : ObjectKind) : k ∈ all := by cases k <;> decide

theorem ofName?_name (k : ObjectKind) : ofName? k.name = some k := by cases k <;> rfl

end ObjectKind

end NetSweep.Migration
