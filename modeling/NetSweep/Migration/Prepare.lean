import NetSweep.Json.Printer
import NetSweep.Log
import NetSweep.Migration.ObjectKind
import NetSweep.Text.Quoted

/-!
# Preparing objects for the destination

An object read from the source becomes a body that the destination will create: a null
description is emptied, the kind's dropped fields go, and the kind's adjustments run in order.  An
adjustment leaves an object alone when the fields it looks for are missing or of another shape, so
only three things can go wrong: the source's value is no object, or an object that is created
inside a load balancer has no such parent, or one without an id.
-/

namespace NetSweep.Migration

abbrev Members := List (String × Json)

/-- What the adjustments need to know about the destination. -/
structure Options where
  /-- the availability zones of the destination; if unknown, hints are left alone -/
  zones : Option (List String)
  /-- the destination's gateway of each external network -/
  gateways : List (String × String)
  /-- the gateway of the external networks that have none of their own -/
  defaultGateway : Option String
  /-- the destination's interface of each port -/
  interfaces : List (String × String)
  /-- whether networks and ports lose their QoS policy -/
  withoutQosPolicy : Bool
  /-- the most address pairs that a port keeps -/
  maxAddressPairs : Nat
  /-- networks whose name begins so are renamed; none if it is empty -/
  internalName : String
deriving DecidableEq, Repr

/-- The options of a migration that is told nothing.  A port of the destination has 128
addresses, one of them its own fixed one. -/
def Options.default : Options :=
  { zones := none, gateways := [], defaultGateway := none, interfaces := []
    withoutQosPolicy := false, maxAddressPairs := 128 - 1, internalName := "inter-edge-net" }

inductive PreparationError where
  | notAnObject (kind : ObjectKind)
  | missingParent (kind : ObjectKind)
  | parentWithoutId (kind : ObjectKind)
deriving DecidableEq, Repr

def PreparationError.message : PreparationError → String
  | notAnObject kind => kind.name ++ " must be a JSON object"
  | missingParent kind => kind.name ++ " cannot be prepared without its parent load balancer"
  | parentWithoutId kind => "parent load balancer of " ++ kind.name ++ " has no id"

/-- What an adjustment leaves: the object's members and what the operator should know. -/
abbrev Adjusted := Members × List Log.Record

abbrev Adjustment := ObjectKind → Options → Members → Adjusted

/-! ## Fields -/

/-- The id of an object as text; an id that is no string is written as JSON. -/
def idText (object : Members) : String :=
  match Assoc.find? "id" object with
  | some (.string id) => id
  | some other => other.render
  | none => "<no id>"

def without (keys : List String) (object : Members) : Members :=
  object.filter fun m => m.1 ∉ keys

def isNullAt (key : String) (object : Members) : Bool :=
  Assoc.find? key object = some .null

def isTrueAt (key : String) (object : Members) : Bool :=
  Assoc.find? key object = some (.bool true)

def stringAt? (key : String) (object : Members) : Option String :=
  (Assoc.find? key object).bind Json.string?

/-! ## Networks -/

def networkType : String := "provider:network_type"

def physicalNetwork : String := "provider:physical_network"

def segmentationId : String := "provider:segmentation_id"

/-- The fields that tie a network to the source's hardware. -/
def hardwareFields : List String := [networkType, physicalNetwork, segmentationId]

def withoutQosPolicy : Adjustment := fun _ options object =>
  (if options.withoutQosPolicy then Assoc.erase "qos_policy_id" object else object, [])

/-- The destination refuses a null where it expects a physical network or a segmentation id. -/
def withoutNullHardware : Adjustment := fun _ _ object =>
  (object.filter fun m => ¬ (m.1 ∈ [physicalNetwork, segmentationId] ∧ m.2.isNull), [])

/-- Overlay and flat networks become plain networks; a VLAN network keeps its VLAN but not the
source's physical network. -/
def destinationNetwork : Adjustment := fun _ _ object =>
  match stringAt? networkType object with
  | some "vxlan" | some "geneve" | some "flat" => (without hardwareFields object, [])
  | some "vlan" => (Assoc.erase physicalNetwork object, [])
  | _ => (object, [])

/-- An external network takes the destination's gateway in place of its provider fields. -/
def destinationGateway : Adjustment := fun _ options object =>
  if isTrueAt "router:external" object then
    let id := idText object
    let isSet := object.any fun m => m.1 ∈ hardwareFields ∧ ¬ m.2.isNull
    let dropped := if isSet then
        [Log.warning "dropped provider settings of external network" [("network", id)]]
      else []
    let mapped := Assoc.find? id options.gateways
    let unmapped := if mapped.isSome then [] else
      [Log.warning "external network has no mapped gateway"
        [("network", id), ("fallback", Text.quotedOption options.defaultGateway)]]
    let plain := without hardwareFields object
    (match mapped.or options.defaultGateway with
      | some gateway => Assoc.insert physicalNetwork (.string gateway) plain
      | none => plain,
      dropped ++ unmapped)
  else (object, [])

def defaultZone : String := "default"

def unknownZones (zones : List String) (hints : List Json) : List String :=
  (hints.filterMap Json.string?).filter (· ∉ zones)

/-- A hint that names a zone the destination does not have would make the creation fail, so such
hints are cleared; the operator need not know when only the default zone is lost. -/
def knownZonesOnly : Adjustment := fun kind options object =>
  match options.zones, Assoc.find? "availability_zone_hints" object with
  | some zones, some (.array hints) =>
    let unknown := unknownZones zones hints
    if unknown.isEmpty then (object, [])
    else
      (Assoc.insert "availability_zone_hints" (.array []) object,
        if unknown.any (· ≠ defaultZone) then
          [Log.warning "clearing unknown availability zone hints"
            [("kind", kind.name), ("id", idText object), ("hints", Text.quotedList unknown)]]
        else [])
  | _, _ => (object, [])

/-- The destination makes an internal network of the same name itself. -/
def nameOutOfTheWay : Adjustment := fun _ options object =>
  match stringAt? "name" object with
  | some name =>
    if options.internalName ≠ "" ∧ options.internalName.toList.isPrefixOf name.toList then
      (Assoc.insert "name" (.string (name ++ "-old")) object, [])
    else (object, [])
  | none => (object, [])

/-! ## Subnets -/

def ipv6Modes : List String := ["ipv6_address_mode", "ipv6_ra_mode"]

/-- An IPv4 subnet has no IPv6 modes, an IPv6 subnet none that is null or empty. -/
def fittingIpv6Modes : Adjustment := fun _ _ object =>
  (match (Assoc.find? "ip_version" object).bind Json.nat? with
    | some 4 => without ipv6Modes object
    | some 6 => object.filter fun m => ¬ (m.1 ∈ ipv6Modes ∧ (m.2.isNull ∨ m.2 = .string ""))
    | _ => object,
    [])

/-! ## Ports -/

/-- No more address pairs than the destination takes, and no field for none. -/
def fewEnoughPairs : Adjustment := fun _ options object =>
  match Assoc.find? "allowed_address_pairs" object with
  | some (.array pairs) =>
    if pairs.isEmpty then (Assoc.erase "allowed_address_pairs" object, [])
    else if options.maxAddressPairs < pairs.length then
      (Assoc.insert "allowed_address_pairs" (.array (pairs.take options.maxAddressPairs)) object,
        [Log.warning "truncating allowed address pairs"
          [("port", idText object), ("count", Decimal.natText pairs.length),
           ("max", Decimal.natText options.maxAddressPairs)]])
    else (object, [])
  | _ => (object, [])

/-- A port that learns addresses cannot have port security at the destination. -/
def securityOrLearning : Adjustment := fun _ _ object =>
  if isTrueAt "mac_learning_enabled" object ∧ isTrueAt "port_security_enabled" object then
    (Assoc.insert "security_groups" (.array [])
      (Assoc.insert "port_security_enabled" (.bool false) object),
      [Log.warning "disabling port security on port with MAC learning"
        [("port", idText object)]])
  else (object, [])

def destinationInterface : Adjustment := fun _ options object =>
  (match Assoc.find? (idText object) options.interfaces with
    | some vif => Assoc.insert "vif_id" (.string vif) object
    | none => object,
    [])

/-! ## Preparing -/

def adjustments : ObjectKind → List Adjustment
  | .network =>
    [withoutQosPolicy, withoutNullHardware, destinationNetwork, destinationGateway, knownZonesOnly,
     nameOutOfTheWay]
  | .subnet => [fittingIpv6Modes]
  | .port => [withoutQosPolicy, fewEnoughPairs, securityOrLearning, destinationInterface]
  | .router => [knownZonesOnly]
  | _ => []

def adjustAll (kind : ObjectKind) (options : Options) (steps : List Adjustment)
    (object : Members) : Adjusted :=
  steps.foldl (fun done step =>
    let (object, log) := step kind options done.1
    (object, done.2 ++ log)) (object, [])

def fillDescription (object : Members) : Members :=
  if isNullAt "description" object then Assoc.insert "description" (.string "") object
  else object

/-- An object as it goes into the adjustments: without the kind's dropped fields. -/
def reduced (kind : ObjectKind) (object : Members) : Members :=
  without kind.dropFields (fillDescription object)

/-- A load balancer as it stands inside its children: without listeners of its own, so that none
is written twice. -/
def embedded : Json → Json
  | .object parent => .object (Assoc.insert "listeners" (.array []) parent)
  | other => other

/-- Puts the load balancer and its id into an object that is created inside it. -/
def insideParent (kind : ObjectKind) (parent : Option Json) (object : Members) :
    Except PreparationError Members :=
  match parent with
  | none => .error (.missingParent kind)
  | some parent =>
    match parent.get? "id" with
    | none | some .null => .error (.parentWithoutId kind)
    | some id =>
      .ok (Assoc.insert "loadbalancer_id" id
        (Assoc.insert "loadbalancer" (embedded parent) object))

/-- Prepares an object for creation, inside a load balancer if its kind needs one. -/
def prepare (options : Options) (kind : ObjectKind) (raw : Json) (parent : Option Json) :
    Except PreparationError Adjusted :=
  match raw with
  | .object object =>
    let (object, log) := adjustAll kind options (adjustments kind) (reduced kind object)
    if kind.needsParent then (insideParent kind parent object).map fun object => (object, log)
    else .ok (object, log)
  | _ => .error (.notAnObject kind)

end NetSweep.Migration
