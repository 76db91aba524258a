import NetSweep.Migration.Prepare
import NetSweep.Proofs.SortedMaps

/-!
# What adjustments read and write

An adjustment looks at some fields of an object and changes some of them.  The other fields keep
their values, whatever the object; what the changed fields are bound to follows from the fields
that are looked at; and an object whose keys ascend stays one.  All this is read off one equation
for each adjustment, which says what a lookup finds afterwards.
-/

namespace NetSweep.Migration

variable {kind : ObjectKind} {options : Options} {object m n : Members} {key : String}
  {fields more : List String}

/-! ## Footprints -/

/-- Two objects bind some fields alike. -/
def Alike (fields : List String) (m n : Members) : Prop :=
  ∀ key ∈ fields, Assoc.find? key m = Assoc.find? key n

theorem Alike.of_append_left (h : Alike (fields ++ more) m n) : Alike fields m n :=
  fun key hkey => h key (List.mem_append_left _ hkey)

theorem Alike.isTrueAt_eq (h : Alike fields m n) (hkey : key ∈ fields) :
    isTrueAt key m = isTrueAt key n := by
  rw [isTrueAt, h key hkey, isTrueAt]

theorem Alike.idText_eq (h : Alike fields m n) (hkey : "id" ∈ fields) : idText m = idText n := by
  rw [idText, h "id" hkey, idText]

/-- An adjustment looks at no other fields than those it reads and those it writes, and binds no
other fields anew than those it writes. -/
structure Adjustment.Within (reads writes : List String) (a : Adjustment) : Prop where
  /-- other fields keep their values -/
  keeps : ∀ (kind : ObjectKind) (options : Options) (m : Members) (key : String), key ∉ writes →
    Assoc.find? key (a kind options m).1 = Assoc.find? key m
  /-- what is written follows from what is looked at -/
  follows : ∀ (kind : ObjectKind) (options : Options) (m n : Members), Assoc.Sorted m →
    Assoc.Sorted n → Alike (writes ++ reads) m n →
    Alike writes (a kind options m).1 (a kind options n).1
  /-- keys go on to ascend -/
  sorted : ∀ (kind : ObjectKind) (options : Options) (m : Members), Assoc.Sorted m →
    Assoc.Sorted (a kind options m).1

/-- An adjustment looks at one field only, and binds it to what follows from its value. -/
def Adjustment.Rebinds (field : String) (f : Options → Option Json → Option Json)
    (a : Adjustment) : Prop :=
  ∀ (kind : ObjectKind) (options : Options) (m : Members) (key : String),
    Assoc.find? key (a kind options m).1 =
      if key = field then f options (Assoc.find? key m) else Assoc.find? key m

theorem Adjustment.Rebinds.within {field : String} {f : Options → Option Json → Option Json}
    {a : Adjustment} (h : a.Rebinds field f)
    (hsorted : ∀ (kind : ObjectKind) (options : Options) (m : Members), Assoc.Sorted m →
      Assoc.Sorted (a kind options m).1) : a.Within [] [field] where
  keeps kind options m key hkey := by
    rw [h, if_neg fun heq => hkey (List.mem_singleton.2 heq)]
  follows kind options m n _ _ halike key hkey := by
    rw [h, h, halike.of_append_left key hkey]
  sorted := hsorted

theorem find?_without (keys : List String) (key : String) (object : Members) :
    Assoc.find? key (without keys object) =
      if key ∈ keys then none else Assoc.find? key object := by
  rw [without, Assoc.find?_filter fun k => decide (k ∉ keys)]
  by_cases h : key ∈ keys <;> simp [h]

theorem sorted_without (keys : List String) (h : Assoc.Sorted object) :
    Assoc.Sorted (without keys object) := h.sublist List.filter_sublist

/-! ## Networks -/

theorem rebinds_withoutQosPolicy : Adjustment.Rebinds "qos_policy_id"
    (fun options v => if options.withoutQosPolicy then none else v) withoutQosPolicy := by
  intro kind options m key
  cases hdrop : options.withoutQosPolicy
  · simp [withoutQosPolicy, hdrop]
  · simp [withoutQosPolicy, hdrop, Assoc.find?_erase]

theorem within_withoutQosPolicy : Adjustment.Within [] ["qos_policy_id"] withoutQosPolicy := by
  refine rebinds_withoutQosPolicy.within fun kind options m h => ?_
  unfold withoutQosPolicy
  dsimp only
  split
  · exact h.sublist List.filter_sublist
  · exact h

theorem find?_withoutNullHardware (h : Assoc.Sorted object) (key : String) :
    Assoc.find? key (withoutNullHardware kind options object).1 =
      if key ∈ [physicalNetwork, segmentationId] ∧ isNullAt key object then none
      else Assoc.find? key object := by
  rw [withoutNullHardware, Assoc.find?_filter_of_nodup _ _ h.nodup, isNullAt]
  cases hv : Assoc.find? key object with
  | none => simp
  | some v =>
    by_cases hkey : key ∈ [physicalNetwork, segmentationId]
    · cases v <;> simp [hkey, Json.isNull]
    · simp [hkey]

theorem within_withoutNullHardware :
    Adjustment.Within [] [physicalNetwork, segmentationId] withoutNullHardware where
  keeps kind options m key hkey :=
    Assoc.find?_filter_of_kept (fun v => by simp [hkey]) m
  follows kind options m n hm hn h key hkey := by
    rw [find?_withoutNullHardware hm, find?_withoutNullHardware hn, isNullAt, isNullAt,
      h.of_append_left key hkey]
  sorted kind options m h := h.sublist List.filter_sublist

/-- The provider fields that a network of some type does not take along. -/
def lostFields : Option String → List String
  | some "vxlan" | some "geneve" | some "flat" => hardwareFields
  | some "vlan" => [physicalNetwork]
  | _ => []

theorem lostFields_subset (type : Option String) : lostFields type ⊆ hardwareFields := by
  unfold lostFields
  split <;> simp [hardwareFields]

theorem destinationNetwork_eq : (destinationNetwork kind options object).1 =
    without (lostFields (stringAt? networkType object)) object := by
  unfold destinationNetwork lostFields
  split <;> simp_all [without, Assoc.erase]

theorem find?_destinationNetwork (key : String) :
    Assoc.find? key (destinationNetwork kind options object).1 =
      if key ∈ lostFields (stringAt? networkType object) then none
      else Assoc.find? key object := by
  rw [destinationNetwork_eq, find?_without]

theorem within_destinationNetwork : Adjustment.Within [] hardwareFields destinationNetwork where
  keeps kind options m key hkey := by
    rw [find?_destinationNetwork, if_neg]
    exact fun h => hkey (lostFields_subset _ h)
  follows kind options m n _ _ h key hkey := by
    have htype : stringAt? networkType m = stringAt? networkType n := by
      rw [stringAt?, h networkType (by decide), stringAt?]
    rw [find?_destinationNetwork, find?_destinationNetwork, htype, h.of_append_left key hkey]
  sorted kind options m h := by
    rw [destinationNetwork_eq]
    exact sorted_without _ h

/-- The gateway that an external network gets: its own, or else the one for all that have none. -/
def gatewayOf (options : Options) (object : Members) : Option String :=
  (Assoc.find? (idText object) options.gateways).or options.defaultGateway

theorem find?_destinationGateway (key : String) :
    Assoc.find? key (destinationGateway kind options object).1 =
      if isTrueAt "router:external" object ∧ key ∈ hardwareFields then
        if key = physicalNetwork then (gatewayOf options object).map .string else none
      else Assoc.find? key object := by
  unfold destinationGateway gatewayOf
  split
  · rename_i hexternal
    dsimp only
    cases (Assoc.find? (idText object) options.gateways).or options.defaultGateway with
    | none => simp [find?_without, hexternal]
    | some gateway =>
      by_cases hkey : key = physicalNetwork
      · simp [hexternal, hkey, hardwareFields]
      · simp [Assoc.find?_insert, find?_without, hexternal, hkey]
  · rename_i hexternal
    simp [hexternal]

theorem within_destinationGateway :
    Adjustment.Within ["router:external", "id"] hardwareFields destinationGateway where
  keeps kind options m key hkey := by
    rw [find?_destinationGateway, if_neg]
    exact fun h => hkey h.2
  follows kind options m n _ _ h key hkey := by
    have hgateway : gatewayOf options m = gatewayOf options n := by
      rw [gatewayOf, h.idText_eq (by decide), gatewayOf]
    rw [find?_destinationGateway, find?_destinationGateway, h.isTrueAt_eq (by decide), hgateway,
      h.of_append_left key hkey]
  sorted kind options m h := by
    unfold destinationGateway
    split
    · dsimp only
      split
      · exact Assoc.sorted_insert _ _ (sorted_without _ h)
      · exact sorted_without _ h
    · exact h

def knownHints (options : Options) : Json → Json
  | .array hints =>
    if options.zones.all fun zones => (unknownZones zones hints).isEmpty then .array hints
    else .array []
  | other => other

theorem rebinds_knownZonesOnly : Adjustment.Rebinds "availability_zone_hints"
    (fun options => Option.map (knownHints options)) knownZonesOnly := by
  intro kind options m key
  unfold knownZonesOnly
  split
  · rename_i zones hints hzones hhints
    by_cases hkey : key = "availability_zone_hints"
    · subst hkey
      cases hunknown : (unknownZones zones hints).isEmpty <;>
        simp [hunknown, hhints, knownHints, hzones]
    · cases hunknown : (unknownZones zones hints).isEmpty <;>
        simp [hunknown, hkey, Assoc.find?_insert]
  · rename_i hother
    by_cases hkey : key = "availability_zone_hints"
    · subst hkey
      cases hhints : Assoc.find? "availability_zone_hints" m with
      | none => rfl
      | some hints =>
        cases hzones : options.zones with
        | none => cases hints <;> simp [knownHints, hzones]
        | some zones =>
          cases hints with
          | array hints => exact absurd hhints (hother _ _ hzones)
          | _ => rfl
    · rw [if_neg hkey]

theorem within_knownZonesOnly :
    Adjustment.Within [] ["availability_zone_hints"] knownZonesOnly := by
  refine rebinds_knownZonesOnly.within fun kind options m h => ?_
  unfold knownZonesOnly
  split
  · dsimp only
    split
    · exact h
    · exact Assoc.sorted_insert _ _ h
  · exact h

def IsInternalName (options : Options) (name : String) : Prop :=
  options.internalName ≠ "" ∧ options.internalName.toList <+: name.toList

instance (options : Options) (name : String) : Decidable (IsInternalName options name) :=
  inferInstanceAs (Decidable (_ ∧ _))

def nameAside (options : Options) : Json → Json
  | .string name => if IsInternalName options name then .string (name ++ "-old") else .string name
  | other => other

theorem rebinds_nameOutOfTheWay : Adjustment.Rebinds "name"
    (fun options => Option.map (nameAside options)) nameOutOfTheWay := by
  intro kind options m key
  unfold nameOutOfTheWay stringAt?
  by_cases hkey : key = "name"
  · subst hkey
    cases hname : Assoc.find? "name" m with
    | none => simp [hname]
    | some v =>
      cases v with
      | string name =>
        have hiff : (options.internalName ≠ "" ∧
            options.internalName.toList.isPrefixOf name.toList = true) ↔
            IsInternalName options name := by
          rw [IsInternalName, List.isPrefixOf_iff_prefix]
        simp only [Json.string?, Option.bind_some, Option.map_some, nameAside, hiff, if_pos]
        split
        · exact Assoc.find?_insert_self _ _ _
        · exact hname
      | _ => simp [Json.string?, nameAside, hname]
  · rw [if_neg hkey]
    split
    · split
      · exact Assoc.find?_insert_ne hkey _ _
      · rfl
    · rfl

theorem within_nameOutOfTheWay : Adjustment.Within [] ["name"] nameOutOfTheWay := by
  refine rebinds_nameOutOfTheWay.within fun kind options m h => ?_
  unfold nameOutOfTheWay
  split
  · split
    · exact Assoc.sorted_insert _ _ h
    · exact h
  · exact h

/-! ## Subnets -/

def isBlankAt (key : String) (object : Members) : Bool :=
  isNullAt key object || stringAt? key object == some ""

def family? (object : Members) : Option Nat := (Assoc.find? "ip_version" object).bind Json.nat?

theorem find?_fittingIpv6Modes (h : Assoc.Sorted object) (key : String) :
    Assoc.find? key (fittingIpv6Modes kind options object).1 =
      if key ∈ ipv6Modes ∧
          (family? object = some 4 ∨ family? object = some 6 ∧ isBlankAt key object) then none
      else Assoc.find? key object := by
  unfold fittingIpv6Modes family?
  split
  · rename_i hfamily
    simp [find?_without, hfamily]
  · rename_i hfamily
    rw [Assoc.find?_filter_of_nodup _ _ h.nodup, isBlankAt, isNullAt, stringAt?]
    cases hv : Assoc.find? key object with
    | none => simp
    | some v =>
      by_cases hkey : key ∈ ipv6Modes
      · cases v <;> simp [hkey, hfamily, Json.isNull, Json.string?, Option.filter_some]
      · simp [hkey]
  · rename_i hfour hsix
    rw [if_neg]
    rintro ⟨-, hfamily | ⟨hfamily, -⟩⟩
    · exact hfour hfamily
    · exact hsix hfamily

theorem within_fittingIpv6Modes :
    Adjustment.Within ["ip_version"] ipv6Modes fittingIpv6Modes where
  keeps kind options m key hkey := by
    unfold fittingIpv6Modes
    dsimp only
    split
    · rw [find?_without, if_neg hkey]
    · exact Assoc.find?_filter_of_kept (fun v => by simp [hkey]) m
    · rfl
  follows kind options m n hm hn h key hkey := by
    have hfamily : family? m = family? n := by
      rw [family?, h "ip_version" (by decide), family?]
    have hblank : isBlankAt key m = isBlankAt key n := by
      rw [isBlankAt, isNullAt, stringAt?, h.of_append_left key hkey, isBlankAt, isNullAt, stringAt?]
    rw [find?_fittingIpv6Modes hm, find?_fittingIpv6Modes hn, hfamily, hblank,
      h.of_append_left key hkey]
  sorted kind options m h := by
    unfold fittingIpv6Modes
    dsimp only
    split
    · exact sorted_without _ h
    · exact h.sublist List.filter_sublist
    · exact h

/-! ## Ports -/

def fewPairs (options : Options) : Json → Option Json
  | .array [] => none
  | .array pairs => some (.array (pairs.take options.maxAddressPairs))
  | other => some other

theorem rebinds_fewEnoughPairs : Adjustment.Rebinds "allowed_address_pairs"
    (fun options v => v.bind (fewPairs options)) fewEnoughPairs := by
  intro kind options m key
  unfold fewEnoughPairs
  split
  · rename_i pairs hpairs
    by_cases hkey : key = "allowed_address_pairs"
    · subst hkey
      cases pairs with
      | nil => simp [hpairs, fewPairs]
      | cons pair pairs =>
        rw [if_pos rfl, hpairs, if_neg (by simp)]
        split
        · simp [fewPairs]
        · rename_i hfew
          simp only [Option.bind_some, fewPairs]
          rw [List.take_of_length_le (Nat.not_lt.1 hfew), hpairs]
    · rw [if_neg hkey]
      split
      · exact Assoc.find?_erase_ne hkey _
      · split
        · exact Assoc.find?_insert_ne hkey _ _
        · rfl
  · rename_i hother
    by_cases hkey : key = "allowed_address_pairs"
    · subst hkey
      cases hpairs : Assoc.find? "allowed_address_pairs" m with
      | none => rfl
      | some v =>
        cases v with
        | array pairs => exact absurd hpairs (hother pairs)
        | _ => rfl
    · rw [if_neg hkey]

theorem within_fewEnoughPairs : Adjustment.Within [] ["allowed_address_pairs"] fewEnoughPairs := by
  refine rebinds_fewEnoughPairs.within fun kind options m h => ?_
  unfold fewEnoughPairs
  split
  · split
    · exact h.sublist List.filter_sublist
    · split
      · exact Assoc.sorted_insert _ _ h
      · exact h
  · exact h

/-- Whether a port has both port security and learning of addresses. -/
def isTorn (object : Members) : Bool :=
  isTrueAt "mac_learning_enabled" object && isTrueAt "port_security_enabled" object

theorem find?_securityOrLearning (key : String) :
    Assoc.find? key (securityOrLearning kind options object).1 =
      if isTorn object ∧ key = "security_groups" then some (.array [])
      else if isTorn object ∧ key = "port_security_enabled" then some (.bool false)
      else Assoc.find? key object := by
  unfold securityOrLearning isTorn
  split
  · rename_i htorn
    simp [htorn, Assoc.find?_insert]
  · rename_i hwhole
    have hwhole' : ¬(isTrueAt "mac_learning_enabled" object &&
        isTrueAt "port_security_enabled" object) = true := by
      rwa [Bool.and_eq_true]
    simp [hwhole']

theorem within_securityOrLearning : Adjustment.Within ["mac_learning_enabled"]
    ["port_security_enabled", "security_groups"] securityOrLearning where
  keeps kind options m key hkey := by
    rw [List.mem_cons, List.mem_singleton, not_or] at hkey
    rw [find?_securityOrLearning, if_neg fun h => hkey.2 h.2, if_neg fun h => hkey.1 h.2]
  follows kind options m n _ _ h key hkey := by
    have htorn : isTorn m = isTorn n := by
      rw [isTorn, h.isTrueAt_eq (by decide), h.isTrueAt_eq (by decide), isTorn]
    rw [find?_securityOrLearning, find?_securityOrLearning, htorn, h.of_append_left key hkey]
  sorted kind options m h := by
    unfold securityOrLearning
    split
    · exact Assoc.sorted_insert _ _ (Assoc.sorted_insert _ _ h)
    · exact h

theorem find?_destinationInterface (key : String) :
    Assoc.find? key (destinationInterface kind options object).1 =
      if key = "vif_id" then
        ((Assoc.find? (idText object) options.interfaces).map .string).or (Assoc.find? key object)
      else Assoc.find? key object := by
  unfold destinationInterface
  cases Assoc.find? (idText object) options.interfaces with
  | none => simp
  | some vif => simp [Assoc.find?_insert]

theorem within_destinationInterface :
    Adjustment.Within ["id"] ["vif_id"] destinationInterface where
  keeps kind options m key hkey := by
    rw [find?_destinationInterface, if_neg]
    exact fun h => hkey (List.mem_singleton.2 h)
  follows kind options m n _ _ h key hkey := by
    rw [find?_destinationInterface, find?_destinationInterface, h.idText_eq (by decide),
      h.of_append_left key hkey]
  sorted kind options m h := by
    unfold destinationInterface
    dsimp only
    split
    · exact Assoc.sorted_insert _ _ h
    · exact h

end NetSweep.Migration
