import NetSweep.Cleanup.Action

/-!
# The procedures of the categories

Each category finds the objects that the orchestrator owns and deletes them, what they contain
first.  Firewall objects of a gateway are found by the tag that links them to it; they may be
shared, so a refusal because of use is expected there.
-/

namespace NetSweep.Cleanup.Setting

variable {σ : Type} (s : Setting σ)

/-! ## Security groups -/

/-- Security policies, then the groups they use. -/
def sweepSecurityGroups : Task σ Unit := do
  let domain := [s.config.domain]
  let policies ← s.findOwned .communicationMap domain [.id .securityGroups]
  Task.each policies fun p => s.deleteOwned .communicationMap domain p.id
  let groups ← s.findOwned .group domain
    [.id .securityGroups, .idStart .securityGroupRules Narrowing.uuidLength]
  Task.each groups fun g => s.deleteOwned .group domain g.id

/-! ## Segments -/

/-- The attachment type of the logical port that serves a network's DHCP. -/
def dhcpServiceType : String := "DHCP_SERVICE"

def findSegments : Task σ (List Resource) := s.findOwned .segment [] [.id .networks]

def findRouters : Task σ (List Resource) := s.findOwned .tier1 [] [.id .routers]

def disconnection : Json := .object [("connectivity_path", .null), ("subnets", .null)]

def deleteContained (kind : Kind) (parents : List String) : Task σ Unit := do
  let found ← s.listOrNone kind parents
  Task.each found fun r => s.deleteAuxiliary kind parents r.id

/-- Takes a segment off DHCP and off its router. -/
def detachSegment (segment : Resource) : Task σ Unit := do
  s.deleteContained .segmentDhcpStaticBinding [segment.id]
  if (segment.field "connectivity_path").isSome then
    s.update .segment [] segment.id disconnection
  else pure ()

def deleteInterfaces (router service : Resource) : Task σ Unit := do
  let parents := [router.id, service.id]
  let interfaces ← s.listOrNone .tier1SegmentInterface parents
  Task.each interfaces fun i => s.deleteOwned .tier1SegmentInterface parents i.id

def sweepSegmentInterfaces : Task σ Unit := do
  let segments ← s.findSegments
  Task.each segments s.detachSegment
  let routers ← s.findRouters
  Task.each routers fun router => do
    let services ← s.listOrNone .tier1LocaleService [router.id]
    Task.each services (s.deleteInterfaces router)

/-- Deletes a segment's port, its profile bindings first. -/
def deletePort (segment port : Resource) : Task σ Unit := do
  Task.each Kind.portBindings fun kind => s.deleteContained kind [segment.id, port.id]
  s.deleteOwned .segmentPort [segment.id] port.id

/-- The logical ports that carry the marker and the tag of a segment's network; none where the
manager API is out of reach. -/
def findDhcpPorts (segment : Resource) : Task σ (List Resource) := do
  let tags := [s.config.marker, .exact networkScope segment.id]
  match ← s.askSearch .logicalPort tags with
  | .ok found => pure found
  | .error (.notFound ..) => pure []
  | .error (.passthroughDisabled kind) => do
    note (Log.debug "cannot look up DHCP port"
      [("segment", segment.id), ("error", (BackendError.passthroughDisabled kind).message)])
    pure []
  | .error e => .fail (.listFailed .logicalPort e)

def deleteDhcpPorts (segment : Resource) : Task σ Unit := do
  let found ← s.findDhcpPorts segment
  Task.each found fun port =>
    if port.attachmentType = some dhcpServiceType then s.deleteAuxiliary .logicalPort [] port.id
    else pure ()

def deleteSegment (segment : Resource) : Task σ Unit := do
  let ports ← s.findOwnedOrNone .segmentPort [segment.id] [.id .ports, .id .portMappings]
  Task.each ports (s.deletePort segment)
  if s.backend.allowsPassthrough then s.deleteDhcpPorts segment else pure ()
  s.deleteOwned .segment [] segment.id

def sweepSegments : Task σ Unit := do
  let segments ← s.findSegments
  Task.each segments s.deleteSegment

/-! ## Quality of service -/

def sweepQosPolicies : Task σ Unit := do
  let profiles ← s.findOwned .qosProfile [] [.id .qosPolicies]
  Task.each profiles fun p => s.deleteOwned .qosProfile [] p.id

/-! ## Firewalls of gateways -/

/-- Groups and gateway policies live in the domain, services outside of it. -/
def domainParents (kind : Kind) : List String :=
  if kind.parentCount = 0 then [] else [s.config.domain]

/-- Deletes every gateway policy, group and service that carries a tag. -/
def sweepFirewall (tag : TagPredicate) : Task σ Unit :=
  Task.each Plan.firewallKinds fun kind => do
    match ← s.askSearch kind [tag] with
    | .ok found => Task.each found fun r => s.deleteShared kind (s.domainParents kind) r.id
    | .error e => .fail (.listFailed kind e)

/-! ## Load balancers -/

def sweepServiceFirewall (service : Resource) : Task σ Unit :=
  s.sweepFirewall
    (.exact loadBalancerScope ((service.tagValue loadBalancerScope).getD service.id))

def loadBalancerKinds : List Kind :=
  [.lbVirtualServer] ++ Kind.lbProfiles ++ [.lbService, .lbPool] ++ Kind.lbMonitors
    ++ [.certificate]

/-- Load balancer services and everything that hangs off them.  The orchestrator has no table of
load balancers, so tags alone decide here. -/
def sweepLoadBalancers : Task σ Unit := do
  let services ← s.findOwned .lbService [] []
  Task.each services s.sweepServiceFirewall
  Task.each loadBalancerKinds fun kind => do
    let found ← s.findOwned kind [] []
    Task.each found fun r => s.deleteOwned kind [] r.id

/-! ## DHCP -/

def detachment : Json := .object [("attachment", .null)]

/-- Detaches and deletes a logical port that serves DHCP.  Should the detachment fail, the delete
may still manage it. -/
def deleteServicePort (port : Resource) : Task σ Unit :=
  if port.attachmentType = some dhcpServiceType then do
    s.update .logicalPort [] port.id detachment
    s.deleteOwned .logicalPort [] port.id
  else pure ()

def noPassthrough : String := "passthrough API disabled"

/-- DHCP servers and the logical ports attached to them, which only the manager API has. -/
def sweepDhcp : Task σ Unit := do
  if s.backend.allowsPassthrough then
    let ports ← s.findOwned .logicalPort [] [.attachmentId .dhcpServiceBindings]
    Task.each ports s.deleteServicePort
    let servers ← s.findOwned .dhcpServer [] [.id .dhcpServiceBindings]
    Task.each servers fun d => s.deleteOwned .dhcpServer [] d.id
  else
    note (Log.info "passthrough API disabled, skipping DHCP cleanup" [])
    tally fun r => { r with skipped := some noPassthrough }

/-! ## Routers -/

def routerParts : List Kind := [.tier1NatRule, .tier1StaticRoute, .tier1LocaleService]

/-- Deletes a router after its firewall and everything it contains.  Its gateway policy is named
after it. -/
def deleteRouter (router : Resource) : Task σ Unit := do
  s.deleteShared .gatewayPolicy [s.config.domain] router.id
  s.sweepFirewall (.exact routerScope router.id)
  Task.each routerParts fun kind => s.deleteContained kind [router.id]
  s.deleteOwned .tier1 [] router.id

def sweepTier1Routers : Task σ Unit := do
  let routers ← s.findRouters
  Task.each routers s.deleteRouter

/-! ## All of them -/

def sweep : Category → Task σ Unit
  | .securityGroups => s.sweepSecurityGroups
  | .segmentInterfaces => s.sweepSegmentInterfaces
  | .segments => s.sweepSegments
  | .qosPolicies => s.sweepQosPolicies
  | .loadBalancers => s.sweepLoadBalancers
  | .dhcp => s.sweepDhcp
  | .tier1Routers => s.sweepTier1Routers

end NetSweep.Cleanup.Setting
