/-!
# Kinds of backend object

A kind says which of the two APIs serves it, where its collection lives, and which kinds its
objects refer to.  The backend refuses to delete an object while another refers to it, so an
object goes before the objects it refers to; `dependencies` is that relation between kinds.
-/

namespace NetSweep

inductive Api where
  /-- the declarative API -/
  | policy
  /-- the lower-level API, reached by passthrough -/
  | manager
deriving DecidableEq, Repr

namespace Api

def name : Api → String
  | policy => "policy"
  | manager => "manager"

/-- The path that all of the API's collections are below. -/
def root : Api → String
  | policy => "/policy/api/v1"
  | manager => "/api/v1"

end Api

/-- A kind of backend object.  The order of the constructors is the order of kinds. -/
inductive Kind where
  | group | communicationMap | gatewayPolicy | service
  | tier1 | tier1LocaleService | tier1NatRule | tier1StaticRoute | tier1SegmentInterface
  | segment | segmentDhcpStaticBinding | segmentPort | segmentPortSecurityBinding
  | segmentPortDiscoveryBinding | segmentPortQosBinding
  | qosProfile
  | lbService | lbVirtualServer | lbPool | lbHttpProfile | lbFastTcpProfile | lbFastUdpProfile
  | lbClientSslProfile | lbCookiePersistenceProfile | lbSourceIpPersistenceProfile
  | lbHttpMonitor | lbHttpsMonitor | lbUdpMonitor | lbIcmpMonitor | lbTcpMonitor
  | certificate
  | logicalPort | dhcpServer
deriving DecidableEq, Repr

/-- One segment of a collection's path: fixed text, or the place of an enclosing object's id. -/
inductive PathSegment where
  | fixed (text : String)
  | parent
deriving DecidableEq, Repr

namespace Kind

def all : List Kind :=
  [group, communicationMap, gatewayPolicy, service,
   tier1, tier1LocaleService, tier1NatRule, tier1StaticRoute, tier1SegmentInterface,
   segment, segmentDhcpStaticBinding, segmentPort, segmentPortSecurityBinding,
   segmentPortDiscoveryBinding, segmentPortQosBinding,
   qosProfile,
   lbService, lbVirtualServer, lbPool, lbHttpProfile, lbFastTcpProfile, lbFastUdpProfile,
   lbClientSslProfile, lbCookiePersistenceProfile, lbSourceIpPersistenceProfile,
   lbHttpMonitor, lbHttpsMonitor, lbUdpMonitor, lbIcmpMonitor, lbTcpMonitor,
   certificate,
   logicalPort, dhcpServer]

def name : Kind → String
  | group => "group"
  | communicationMap => "communication_map"
  | gatewayPolicy => "gateway_policy"
  | service => "service"
  | tier1 => "tier1"
  | tier1LocaleService => "tier1_locale_service"
  | tier1NatRule => "tier1_nat_rule"
  | tier1StaticRoute => "tier1_static_route"
  | tier1SegmentInterface => "tier1_segment_interface"
  | segment => "segment"
  | segmentDhcpStaticBinding => "segment_dhcp_static_binding"
  | segmentPort => "segment_port"
  | segmentPortSecurityBinding => "segment_port_security_binding"
  | segmentPortDiscoveryBinding => "segment_port_discovery_binding"
  | segmentPortQosBinding => "segment_port_qos_binding"
  | qosProfile => "qos_profile"
  | lbService => "lb_service"
  | lbVirtualServer => "lb_virtual_server"
  | lbPool => "lb_pool"
  | lbHttpProfile => "lb_http_profile"
  | lbFastTcpProfile => "lb_fast_tcp_profile"
  | lbFastUdpProfile => "lb_fast_udp_profile"
  | lbClientSslProfile => "lb_client_ssl_profile"
  | lbCookiePersistenceProfile => "lb_cookie_persistence_profile"
  | lbSourceIpPersistenceProfile => "lb_source_ip_persistence_profile"
  | lbHttpMonitor => "lb_http_monitor"
  | lbHttpsMonitor => "lb_https_monitor"
  | lbUdpMonitor => "lb_udp_monitor"
  | lbIcmpMonitor => "lb_icmp_monitor"
  | lbTcpMonitor => "lb_tcp_monitor"
  | certificate => "certificate"
  | logicalPort => "logical_port"
  | dhcpServer => "dhcp_server"

def ofName? (s : String) : Option Kind := all.find? (·.name == s)

def rank (k : Kind) : Nat := k.ctorIdx

def api : Kind → Api
  | logicalPort | dhcpServer => .manager
  | _ => .policy

open PathSegment in
def collection : Kind → List PathSegment
  | group => [fixed "infra", fixed "domains", parent, fixed "groups"]
  | communicationMap => [fixed "infra", fixed "domains", parent, fixed "security-policies"]
  | gatewayPolicy => [fixed "infra", fixed "domains", parent, fixed "gateway-policies"]
  | service => [fixed "infra", fixed "services"]
  | tier1 => [fixed "infra", fixed "tier-1s"]
  | tier1LocaleService => [fixed "infra", fixed "tier-1s", parent, fixed "locale-services"]
  | tier1NatRule =>
    [fixed "infra", fixed "tier-1s", parent, fixed "nat", fixed "USER", fixed "nat-rules"]
  | tier1StaticRoute => [fixed "infra", fixed "tier-1s", parent, fixed "static-routes"]
  | tier1SegmentInterface =>
    [fixed "infra", fixed "tier-1s", parent, fixed "locale-services", parent, fixed "interfaces"]
  | segment => [fixed "infra", fixed "segments"]
  | segmentDhcpStaticBinding =>
    [fixed "infra", fixed "segments", parent, fixed "dhcp-static-binding-configs"]
  | segmentPort => [fixed "infra", fixed "segments", parent, fixed "ports"]
  | segmentPortSecurityBinding =>
    [fixed "infra", fixed "segments", parent, fixed "ports", parent,
     fixed "port-security-profile-binding-maps"]
  | segmentPortDiscoveryBinding =>
    [fixed "infra", fixed "segments", parent, fixed "ports", parent,
     fixed "port-discovery-profile-binding-maps"]
  | segmentPortQosBinding =>
    [fixed "infra", fixed "segments", parent, fixed "ports", parent,
     fixed "port-qos-profile-binding-maps"]
  | qosProfile => [fixed "infra", fixed "qos-profiles"]
  | lbService => [fixed "infra", fixed "lb-services"]
  | lbVirtualServer => [fixed "infra", fixed "lb-virtual-servers"]
  | lbPool => [fixed "infra", fixed "lb-pools"]
  | lbHttpProfile | lbFastTcpProfile | lbFastUdpProfile =>
    [fixed "infra", fixed "lb-app-profiles"]
  | lbClientSslProfile => [fixed "infra", fixed "lb-client-ssl-profiles"]
  | lbCookiePersistenceProfile | lbSourceIpPersistenceProfile =>
    [fixed "infra", fixed "lb-persistence-profiles"]
  | lbHttpMonitor | lbHttpsMonitor | lbUdpMonitor | lbIcmpMonitor | lbTcpMonitor =>
    [fixed "infra", fixed "lb-monitor-profiles"]
  | certificate => [fixed "infra", fixed "certificates"]
  | logicalPort => [fixed "logical-ports"]
  | dhcpServer => [fixed "dhcp", fixed "servers"]

/-- The number of enclosing ids that address an object of the kind. -/
def parentCount (k : Kind) : Nat := k.collection.count .parent

/-- The collection's path with each place of an enclosing id left open. -/
def template (k : Kind) : String :=
  "/".intercalate (k.collection.map fun
    | .fixed text => text
    | .parent => "\x7b\x7d")

def fill : List PathSegment → List String → List String
  | [], _ => []
  | .fixed text :: rest, parents => text :: fill rest parents
  | .parent :: rest, parents => parents.headD "" :: fill rest parents.tail

def backendType : Kind → String
  | group => "Group"
  | communicationMap => "SecurityPolicy"
  | gatewayPolicy => "GatewayPolicy"
  | service => "Service"
  | tier1 => "Tier1"
  | tier1LocaleService => "LocaleServices"
  | tier1NatRule => "PolicyNatRule"
  | tier1StaticRoute => "StaticRoutes"
  | tier1SegmentInterface => "Tier1Interface"
  | segment => "Segment"
  | segmentDhcpStaticBinding => "DhcpV4StaticBindingConfig"
  | segmentPort => "SegmentPort"
  | segmentPortSecurityBinding => "PortSecurityProfileBindingMap"
  | segmentPortDiscoveryBinding => "PortDiscoveryProfileBindingMap"
  | segmentPortQosBinding => "PortQoSProfileBindingMap"
  | qosProfile => "QoSProfile"
  | lbService => "LBService"
  | lbVirtualServer => "LBVirtualServer"
  | lbPool => "LBPool"
  | lbHttpProfile => "LBHttpProfile"
  | lbFastTcpProfile => "LBFastTcpProfile"
  | lbFastUdpProfile => "LBFastUdpProfile"
  | lbClientSslProfile => "LBClientSslProfile"
  | lbCookiePersistenceProfile => "LBCookiePersistenceProfile"
  | lbSourceIpPersistenceProfile => "LBSourceIpPersistenceProfile"
  | lbHttpMonitor => "LBHttpMonitorProfile"
  | lbHttpsMonitor => "LBHttpsMonitorProfile"
  | lbUdpMonitor => "LBUdpMonitorProfile"
  | lbIcmpMonitor => "LBIcmpMonitorProfile"
  | lbTcpMonitor => "LBTcpMonitorProfile"
  | certificate => "TlsCertificate"
  | logicalPort => "LogicalPort"
  | dhcpServer => "LogicalDhcpServer"

/-- Whether another kind lives in the same collection, so that its objects have to be told apart
by the backend's type name. -/
def sharesCollection (k : Kind) : Bool := all.any (fun j => j ≠ k ∧ j.collection = k.collection)

/-- The kind whose objects contain objects of this kind. -/
def parent? : Kind → Option Kind
  | tier1LocaleService | tier1NatRule | tier1StaticRoute => some tier1
  | tier1SegmentInterface => some tier1LocaleService
  | segmentDhcpStaticBinding | segmentPort => some segment
  | segmentPortSecurityBinding | segmentPortDiscoveryBinding | segmentPortQosBinding =>
    some segmentPort
  | _ => none

/-- The load balancer profile kinds, in the order they are deleted. -/
def lbProfiles : List Kind :=
  [lbHttpProfile, lbFastTcpProfile, lbFastUdpProfile, lbClientSslProfile,
   lbCookiePersistenceProfile, lbSourceIpPersistenceProfile]

def lbMonitors : List Kind :=
  [lbHttpMonitor, lbHttpsMonitor, lbUdpMonitor, lbIcmpMonitor, lbTcpMonitor]

def portBindings : List Kind :=
  [segmentPortSecurityBinding, segmentPortDiscoveryBinding, segmentPortQosBinding]

/-- The kinds that objects of the kind refer to, their container aside. -/
def references : Kind → List Kind
  | communicationMap | gatewayPolicy => [group, service]
  | tier1SegmentInterface => [segment]
  | segment => [tier1]
  | segmentPortQosBinding => [qosProfile]
  | lbVirtualServer => [lbService, lbPool] ++ lbProfiles ++ [certificate]
  | lbService => [tier1]
  | lbPool => lbMonitors
  | lbHttpsMonitor => [certificate]
  | logicalPort => [dhcpServer]
  | _ => []

/-- The kinds that objects of the kind refer to, the container first. -/
def dependencies (k : Kind) : List Kind := k.parent?.toList ++ k.references

theorem mem_all (k : Kind) : k ∈ all := by cases k <;> decide

theorem ofName?_name (k : Kind) : ofName? k.name = some k := by cases k <;> rfl

/-- Kinds are told apart by their type names. -/
theorem backendType_injective {k j : Kind} (h : k.backendType = j.backendType) : k = j := by
  have hall : ∀ k ∈ all, ∀ j ∈ all, k.backendType = j.backendType → k = j := by decide +kernel
  exact hall k (mem_all k) j (mem_all j) h

/-- Below its container a kind needs one enclosing id more than the container does. -/
theorem parentCount_of_parent? {k j : Kind} (h : k.parent? = some j) :
    k.parentCount = j.parentCount + 1 := by
  revert h
  cases k <;> cases j <;> decide

end Kind

end NetSweep
