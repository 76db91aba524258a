import NetSweep.Proofs.PreparedFields

/-!
# The provider fields of a network

Three fields tie a network to the source's hardware.  What is left of each of them at the
destination follows from whether the network is external, from its type and from the field itself;
every other field follows from the same field at the source alone.  So networks that differ in
their provider fields only become the same network, unless these fields say something that the
destination takes over.  One null gets through: the type of a network that is not external.
-/

namespace NetSweep.Migration

variable {kind : ObjectKind} {options : Options} {object a b m n : Members} {key : String}
  {fields reads writes : List String} {step : Adjustment} {steps : List Adjustment}

/-! ## Fields that stand for themselves -/

/-- Two objects bind all but some fields alike. -/
def AlikeBut (fields : List String) (m n : Members) : Prop :=
  ∀ key, key ∉ fields → Assoc.find? key m = Assoc.find? key n

theorem AlikeBut.of_without (h : without fields m = without fields n) : AlikeBut fields m n := by
  intro key hkey
  calc Assoc.find? key m
      = Assoc.find? key (without fields m) := by rw [find?_without, if_neg hkey]
    _ = Assoc.find? key (without fields n) := by rw [h]
    _ = Assoc.find? key n := by rw [find?_without, if_neg hkey]

/-- But for some fields, what an adjustment binds a field to follows from this field alone. -/
def Adjustment.Fieldwise (fields : List String) (step : Adjustment) : Prop :=
  ∀ (kind : ObjectKind) (options : Options) (m n : Members) (key : String), key ∉ fields →
    Assoc.find? key m = Assoc.find? key n →
    Assoc.find? key (step kind options m).1 = Assoc.find? key (step kind options n).1

theorem Adjustment.Rebinds.fieldwise {field : String} {f : Options → Option Json → Option Json}
    (h : step.Rebinds field f) (fields : List String) : step.Fieldwise fields := by
  intro kind options m n key _ hsame
  rw [h, h, hsame]

theorem Adjustment.Within.fieldwise (h : step.Within reads writes) (hwrites : writes ⊆ fields) :
    step.Fieldwise fields := by
  intro kind options m n key hkey hsame
  have hwritten : key ∉ writes := fun hmem => hkey (hwrites hmem)
  rw [h.keeps kind options m key hwritten, h.keeps kind options n key hwritten, hsame]

/-- Fieldwise adjustments leave objects alike that are. -/
theorem AlikeBut.adjusted (kind : ObjectKind) (options : Options)
    (hsteps : ∀ step ∈ steps, step.Fieldwise fields) (h : AlikeBut fields m n) :
    AlikeBut fields (adjustAll kind options steps m).1 (adjustAll kind options steps n).1 := by
  induction steps generalizing m n with
  | nil => exact h
  | cons step steps ih =>
    rw [adjustAll_cons_fst, adjustAll_cons_fst]
    refine ih (fun later hlater => hsteps later (List.mem_cons_of_mem _ hlater)) ?_
    exact fun key hkey =>
      hsteps step List.mem_cons_self kind options m n key hkey (h key hkey)

theorem alikeBut_reduced (kind : ObjectKind) (h : AlikeBut fields m n) :
    AlikeBut fields (reduced kind m) (reduced kind n) := by
  intro key hkey
  rw [find?_reduced, find?_reduced, find?_fillDescription, find?_fillDescription, h key hkey]

/-- Only the provider fields of a network look at other fields. -/
theorem fieldwise_network : ∀ step ∈ adjustments .network, step.Fieldwise hardwareFields := by
  simp only [adjustments, List.forall_mem_cons]
  exact ⟨rebinds_withoutQosPolicy.fieldwise _, within_withoutNullHardware.fieldwise (by decide),
    within_destinationNetwork.fieldwise (List.Subset.refl _),
    within_destinationGateway.fieldwise (List.Subset.refl _), rebinds_knownZonesOnly.fieldwise _,
    rebinds_nameOutOfTheWay.fieldwise _, List.forall_mem_nil _⟩

/-! ## What is left of a provider field -/

def hardwareField (options : Options) (object : Members) (key : String) : Option Json :=
  if isTrueAt "router:external" object then
    if key = physicalNetwork then (gatewayOf options object).map .string else none
  else if key ∈ lostFields (stringAt? networkType object) then none
  else if key ∈ [physicalNetwork, segmentationId] ∧ isNullAt key object then none
  else Assoc.find? key object

def hardwareFacts : List String := hardwareFields ++ ["router:external", "id"]

theorem Alike.hardwareField_eq (h : Alike hardwareFacts m n) (hkey : key ∈ hardwareFields) :
    hardwareField options m key = hardwareField options n key := by
  have hexternal : isTrueAt "router:external" m = isTrueAt "router:external" n :=
    h.isTrueAt_eq (by decide)
  have hgateway : gatewayOf options m = gatewayOf options n := by
    rw [gatewayOf, h.idText_eq (by decide), gatewayOf]
  have htype : stringAt? networkType m = stringAt? networkType n := by
    rw [stringAt?, h networkType (by decide), stringAt?]
  have hfind := h key (List.mem_append_left _ hkey)
  rw [hardwareField, hardwareField, hexternal, hgateway, htype, isNullAt, isNullAt, hfind]

def untyping : List Adjustment := [withoutQosPolicy, withoutNullHardware, destinationNetwork]

theorem writtenWithin_untyping : WrittenWithin ("qos_policy_id" :: hardwareFields) untyping :=
  .cons within_withoutQosPolicy (by decide) <|
  .cons within_withoutNullHardware (by decide) <|
  .cons within_destinationNetwork (by decide) .nil

theorem find?_hardware_untyped (hm : Assoc.Sorted m) (hkey : key ∈ hardwareFields) :
    Assoc.find? key (adjustAll kind options untyping m).1 =
      if key ∈ lostFields (stringAt? networkType m) then none
      else if key ∈ [physicalNetwork, segmentationId] ∧ isNullAt key m then none
      else Assoc.find? key m := by
  have hkept : ∀ field ∈ hardwareFields,
      Assoc.find? field (withoutQosPolicy kind options m).1 = Assoc.find? field m :=
    fun field hfield => within_withoutQosPolicy.keeps kind options m field <| by
      revert field
      decide
  have hsorted := within_withoutQosPolicy.sorted kind options m hm
  have htype : stringAt? networkType
      (withoutNullHardware kind options (withoutQosPolicy kind options m).1).1 =
        stringAt? networkType m := by
    rw [stringAt?, find?_withoutNullHardware hsorted, if_neg fun h => absurd h.1 (by decide),
      hkept networkType (by decide), stringAt?]
  have hsteps : (adjustAll kind options untyping m).1 = (destinationNetwork kind options
      (withoutNullHardware kind options (withoutQosPolicy kind options m).1).1).1 := rfl
  rw [hsteps, find?_destinationNetwork, htype, find?_withoutNullHardware hsorted, isNullAt,
    hkept key hkey, isNullAt]

theorem find?_hardware_adjusted (hm : Assoc.Sorted m) (hkey : key ∈ hardwareFields) :
    Assoc.find? key (adjustAll .network options (adjustments .network) m).1 =
      hardwareField options m key := by
  have hlater : WrittenWithin ["availability_zone_hints", "name"]
      [knownZonesOnly, nameOutOfTheWay] :=
    .cons within_knownZonesOnly (by decide) (.cons within_nameOutOfTheWay (by decide) .nil)
  have hunwritten : key ∉ ["availability_zone_hints", "name"] := by
    revert key
    decide
  have hexternal : isTrueAt "router:external" (adjustAll .network options untyping m).1 =
      isTrueAt "router:external" m := by
    rw [isTrueAt, writtenWithin_untyping.keeps (by decide), isTrueAt]
  have hgateway : gatewayOf options (adjustAll .network options untyping m).1 =
      gatewayOf options m := by
    rw [gatewayOf, idText, writtenWithin_untyping.keeps (by decide), gatewayOf, idText]
  calc Assoc.find? key (adjustAll .network options (adjustments .network) m).1
      = Assoc.find? key (destinationGateway .network options
          (adjustAll .network options untyping m).1).1 := hlater.keeps hunwritten
    _ = hardwareField options m key := by
      rw [find?_destinationGateway, hexternal, hgateway, find?_hardware_untyped hm hkey,
        hardwareField]
      simp only [hkey, and_true]

/-! ## Prepared networks -/

/-- An object is prepared as another one, whatever parent it is given. -/
def PreparedAs (options : Options) (kind : ObjectKind) (object out : Members) : Prop :=
  ∀ parent, ∃ log, prepare options kind (.object object) parent = .ok (out, log)

theorem preparedAs_adjusted (options : Options) (object : Members) (h : kind.needsParent = false) :
    PreparedAs options kind object
      (adjustAll kind options (adjustments kind) (reduced kind object)).1 :=
  fun _ => ⟨_, prepare_alone h⟩

def preparedNetwork (options : Options) (object : Members) : Members :=
  (adjustAll .network options (adjustments .network) (reduced .network object)).1

theorem network_preparedAs (options : Options) (object : Members) :
    PreparedAs options .network object (preparedNetwork options object) :=
  preparedAs_adjusted options object rfl

theorem find?_hardware_prepared (hobject : Assoc.Sorted object) (hkey : key ∈ hardwareFields) :
    Assoc.find? key (preparedNetwork options object) = hardwareField options object key := by
  rw [preparedNetwork, find?_hardware_adjusted (sorted_reduced .network hobject) hkey]
  exact (alike_reduced (by decide) object).hardwareField_eq hkey

theorem sorted_preparedNetwork (options : Options) (hobject : Assoc.Sorted object) :
    Assoc.Sorted (preparedNetwork options object) :=
  (writtenWithin_adjustments .network).sorted (sorted_reduced .network hobject)

/-- Networks become the same one if the same is left of their provider fields. -/
theorem networks_preparedAs (options : Options) (ha : Assoc.Sorted a) (hb : Assoc.Sorted b)
    (hsame : AlikeBut hardwareFields a b)
    (hleft : ∀ key ∈ hardwareFields, hardwareField options a key = hardwareField options b key) :
    ∃ out, PreparedAs options .network a out ∧ PreparedAs options .network b out ∧
      ∀ key ∈ hardwareFields, Assoc.find? key out = hardwareField options a key := by
  have hequal : preparedNetwork options b = preparedNetwork options a := by
    refine (sorted_preparedNetwork options hb).ext (sorted_preparedNetwork options ha) fun key => ?_
    by_cases hkey : key ∈ hardwareFields
    · rw [find?_hardware_prepared hb hkey, find?_hardware_prepared ha hkey, hleft key hkey]
    · have hadjusted :=
        (alikeBut_reduced .network hsame).adjusted .network options fieldwise_network
      exact (hadjusted key hkey).symm
  exact ⟨_, network_preparedAs options a, hequal ▸ network_preparedAs options b,
    fun _ hkey => find?_hardware_prepared ha hkey⟩

/-! ## Networks by type -/

def plainTypes : List String := ["vxlan", "geneve", "flat"]

theorem hardwareField_external (options : Options)
    (h : isTrueAt "router:external" object = true) (key : String) :
    hardwareField options object key =
      if key = physicalNetwork then (gatewayOf options object).map .string else none := by
  rw [hardwareField, if_pos h]

theorem hardwareField_plain {type : String} (h : isTrueAt "router:external" object = false)
    (htype : Assoc.find? networkType object = some (.string type)) (hplain : type ∈ plainTypes)
    (hkey : key ∈ hardwareFields) : hardwareField options object key = none := by
  have hlost : lostFields (stringAt? networkType object) = hardwareFields := by
    rw [stringAt?, htype]
    simp only [plainTypes, List.mem_cons, List.not_mem_nil, or_false] at hplain
    rcases hplain with rfl | rfl | rfl <;> rfl
  rw [hardwareField, h, if_neg Bool.false_ne_true, hlost, if_pos hkey]

theorem hardwareField_vlan (h : isTrueAt "router:external" object = false)
    (htype : Assoc.find? networkType object = some (.string "vlan")) (hkey : key ∈ hardwareFields) :
    hardwareField options object key =
      if key = networkType then some (.string "vlan")
      else if key = segmentationId then
        (Assoc.find? segmentationId object).filter fun v => !v.isNull
      else none := by
  have hlost : lostFields (stringAt? networkType object) = [physicalNetwork] := by
    rw [stringAt?, htype]
    rfl
  rw [hardwareField, h, if_neg Bool.false_ne_true, hlost]
  simp only [hardwareFields, List.mem_cons, List.not_mem_nil, or_false] at hkey
  rcases hkey with rfl | rfl | rfl
  · rw [if_neg (by decide), if_neg fun hnull => absurd hnull.1 (by decide), htype, if_pos rfl]
  · rw [if_pos (by decide), if_neg (by decide), if_neg (by decide)]
  · have hchecked : segmentationId ∈ [physicalNetwork, segmentationId] := by decide
    have hkept : segmentationId ∉ [physicalNetwork] := by decide
    have hother : segmentationId ≠ networkType := by decide
    rw [if_neg hkept, if_neg hother, if_pos rfl, isNullAt]
    cases Assoc.find? segmentationId object with
    | none => simp
    | some v => cases v <;> simp [hchecked, Json.isNull, Option.filter_some]

theorem hardwareField_eq_null_iff (hkey : key ∈ hardwareFields) :
    hardwareField options object key = some .null ↔
      key = networkType ∧ isTrueAt "router:external" object = false ∧
        Assoc.find? networkType object = some .null := by
  cases hexternal : isTrueAt "router:external" object with
  | true =>
    rw [hardwareField_external options hexternal]
    split <;> simp
  | false =>
    rw [hardwareField, hexternal, if_neg Bool.false_ne_true]
    by_cases htype : key = networkType
    · subst htype
      constructor
      · intro hnull
        split at hnull
        · cases hnull
        · rw [if_neg fun h => absurd h.1 (by decide)] at hnull
          exact ⟨rfl, rfl, hnull⟩
      · rintro ⟨-, -, hnull⟩
        -- a null is no type that could cost the network fields
        have hlost : lostFields (stringAt? networkType object) = [] := by
          rw [stringAt?, hnull]
          rfl
        rw [hlost, if_neg List.not_mem_nil, if_neg fun h => absurd h.1 (by decide), hnull]
    · have hchecked : key ∈ [physicalNetwork, segmentationId] :=
        (List.mem_cons.1 hkey).resolve_left htype
      simp only [htype, false_and, iff_false]
      intro hnull
      split at hnull
      · cases hnull
      · split at hnull
        · cases hnull
        · rename_i hsaid
          exact hsaid ⟨hchecked, decide_eq_true hnull⟩

/-! ## The source's hardware -/

section Twins

variable (options : Options) (ha : Assoc.Sorted a) (hb : Assoc.Sorted b)
  (hsame : AlikeBut hardwareFields a b)

include hsame in
theorem AlikeBut.isExternal_eq :
    isTrueAt "router:external" b = isTrueAt "router:external" a := by
  rw [isTrueAt, ← hsame "router:external" (by decide), isTrueAt]

include hsame in
theorem AlikeBut.gatewayOf_eq : gatewayOf options b = gatewayOf options a := by
  rw [gatewayOf, idText, ← hsame "id" (by decide), gatewayOf, idText]

include ha hb hsame

/-- External networks get the same gateway, whatever they stood on. -/
theorem external_twins (hexternal : isTrueAt "router:external" a = true) :
    ∃ out, PreparedAs options .network a out ∧ PreparedAs options .network b out ∧
      Assoc.find? networkType out = none ∧ Assoc.find? segmentationId out = none ∧
      Assoc.find? physicalNetwork out = (gatewayOf options a).map .string := by
  have hleft := hardwareField_external options hexternal
  have hleft' := hardwareField_external options (hsame.isExternal_eq.trans hexternal)
  obtain ⟨out, hout, hout', hfields⟩ := networks_preparedAs options ha hb hsame fun key _ => by
    rw [hleft, hleft', hsame.gatewayOf_eq]
  refine ⟨out, hout, hout', ?_, ?_, ?_⟩
  · rw [hfields _ (by decide), hleft, if_neg (by decide)]
  · rw [hfields _ (by decide), hleft, if_neg (by decide)]
  · rw [hfields _ (by decide), hleft, if_pos rfl]

/-- Networks of plain types lose all that they stood on. -/
theorem plain_twins {typeA typeB : String} (hinner : isTrueAt "router:external" a = false)
    (hplainA : typeA ∈ plainTypes) (hplainB : typeB ∈ plainTypes)
    (htypeA : Assoc.find? networkType a = some (.string typeA))
    (htypeB : Assoc.find? networkType b = some (.string typeB)) :
    ∃ out, PreparedAs options .network a out ∧ PreparedAs options .network b out ∧
      ∀ key ∈ hardwareFields, Assoc.find? key out = none := by
  have hinner' := hsame.isExternal_eq.trans hinner
  obtain ⟨out, hout, hout', hfields⟩ := networks_preparedAs options ha hb hsame fun key hkey => by
    rw [hardwareField_plain hinner htypeA hplainA hkey,
      hardwareField_plain hinner' htypeB hplainB hkey]
  refine ⟨out, hout, hout', fun key hkey => ?_⟩
  rw [hfields key hkey, hardwareField_plain hinner htypeA hplainA hkey]

/-- VLAN networks keep their VLAN, and nothing else that they stood on. -/
theorem vlan_twins (hinner : isTrueAt "router:external" a = false)
    (htypeA : Assoc.find? networkType a = some (.string "vlan"))
    (htypeB : Assoc.find? networkType b = some (.string "vlan"))
    (hsegment : Assoc.find? segmentationId a = Assoc.find? segmentationId b) :
    ∃ out, PreparedAs options .network a out ∧ PreparedAs options .network b out ∧
      Assoc.find? physicalNetwork out = none ∧
      Assoc.find? segmentationId out =
        (Assoc.find? segmentationId a).filter fun v => !v.isNull := by
  have hinner' := hsame.isExternal_eq.trans hinner
  obtain ⟨out, hout, hout', hfields⟩ := networks_preparedAs options ha hb hsame fun key hkey => by
    rw [hardwareField_vlan hinner htypeA hkey, hardwareField_vlan hinner' htypeB hkey, hsegment]
  refine ⟨out, hout, hout', ?_, ?_⟩
  · rw [hfields _ (by decide), hardwareField_vlan hinner htypeA (by decide), if_neg (by decide),
      if_neg (by decide)]
  · rw [hfields _ (by decide), hardwareField_vlan hinner htypeA (by decide), if_neg (by decide),
      if_pos rfl]

end Twins

/-- Networks that differ in their provider fields only become the same network: external ones in
any case, with the gateway of the destination alone; others if both have a type that becomes plain,
without provider fields; and VLAN networks if they have the same segmentation id, which stays unless
it is null. -/
theorem source_hardware_hidden (options : Options) (ha : Assoc.Sorted a) (hb : Assoc.Sorted b)
    (hsame : AlikeBut hardwareFields a b) :
    (isTrueAt "router:external" a = true →
      ∃ out, PreparedAs options .network a out ∧ PreparedAs options .network b out ∧
        Assoc.find? networkType out = none ∧ Assoc.find? segmentationId out = none ∧
        Assoc.find? physicalNetwork out = (gatewayOf options a).map .string) ∧
    (isTrueAt "router:external" a = false → ∀ typeA ∈ plainTypes, ∀ typeB ∈ plainTypes,
      Assoc.find? networkType a = some (.string typeA) →
      Assoc.find? networkType b = some (.string typeB) →
      ∃ out, PreparedAs options .network a out ∧ PreparedAs options .network b out ∧
        ∀ key ∈ hardwareFields, Assoc.find? key out = none) ∧
    (isTrueAt "router:external" a = false →
      Assoc.find? networkType a = some (.string "vlan") →
      Assoc.find? networkType b = some (.string "vlan") →
      Assoc.find? segmentationId a = Assoc.find? segmentationId b →
      ∃ out, PreparedAs options .network a out ∧ PreparedAs options .network b out ∧
        Assoc.find? physicalNetwork out = none ∧
        Assoc.find? segmentationId out =
          (Assoc.find? segmentationId a).filter fun v => !v.isNull) :=
  ⟨external_twins options ha hb hsame,
    fun hinner _ hplainA _ hplainB htypeA htypeB =>
      plain_twins options ha hb hsame hinner hplainA hplainB htypeA htypeB,
    vlan_twins options ha hb hsame⟩

def networkOn (hardware : Members) (external : Bool) : Members :=
  ("id", .string "n1") :: hardware ++ [("router:external", .bool external)]

def onSwitch (type : String) : Members :=
  [(networkType, .string type), (physicalNetwork, .string "dvs-1"), (segmentationId, .int 100)]

def Options.upstream : Options := { Options.default with gateways := [("n1", "tier0-a")] }

/-- An external network gets its gateway, from a switch or from nowhere; overlay and flat networks
become plain; and of a VLAN on the switch its number alone stays. -/
theorem twin_networks_prepared_alike :
    (∃ out, PreparedAs .upstream .network (networkOn (onSwitch "vlan") true) out ∧
      PreparedAs .upstream .network (networkOn [] true) out ∧
      Assoc.find? physicalNetwork out = some (.string "tier0-a")) ∧
    (∃ out, PreparedAs .default .network (networkOn (onSwitch "vxlan") false) out ∧
      PreparedAs .default .network (networkOn [(networkType, .string "flat")] false) out ∧
      Assoc.find? networkType out = none) ∧
    ∃ out, PreparedAs .default .network (networkOn (onSwitch "vlan") false) out ∧
      PreparedAs .default .network
        (networkOn [(networkType, .string "vlan"), (segmentationId, .int 100)] false) out ∧
      Assoc.find? segmentationId out = some (.int 100) := by
  have hsorted : ∀ {m : Members}, (Assoc.keys m).Pairwise (· < ·) → Assoc.Sorted m :=
    Assoc.sorted_iff_keys.2
  refine ⟨?_, ?_, ?_⟩
  · obtain ⟨hexternal, -⟩ := source_hardware_hidden .upstream
      (a := networkOn (onSwitch "vlan") true) (b := networkOn [] true)
      (hsorted (by decide)) (hsorted (by decide)) (.of_without rfl)
    obtain ⟨out, hout, hout', -, -, hgateway⟩ := hexternal rfl
    exact ⟨out, hout, hout', hgateway⟩
  · obtain ⟨-, hplain, -⟩ := source_hardware_hidden .default
      (a := networkOn (onSwitch "vxlan") false)
      (b := networkOn [(networkType, .string "flat")] false)
      (hsorted (by decide)) (hsorted (by decide)) (.of_without rfl)
    obtain ⟨out, hout, hout', hnone⟩ :=
      hplain rfl "vxlan" (by decide) "flat" (by decide) rfl rfl
    exact ⟨out, hout, hout', hnone networkType (by decide)⟩
  · obtain ⟨-, -, hvlan⟩ := source_hardware_hidden .default
      (a := networkOn (onSwitch "vlan") false)
      (b := networkOn [(networkType, .string "vlan"), (segmentationId, .int 100)] false)
      (hsorted (by decide)) (hsorted (by decide)) (.of_without rfl)
    obtain ⟨out, hout, hout', -, hsegment⟩ := hvlan rfl rfl rfl rfl
    exact ⟨out, hout, hout', hsegment⟩

/-! ## Nulls -/

/-- A network is prepared without a null in its provider fields, exactly unless it is not external
and its type is null, which then stays. -/
theorem null_hardware_sent_iff (options : Options) (hobject : Assoc.Sorted object) :
    ∃ out, PreparedAs options .network object out ∧
      ∀ key ∈ hardwareFields, (Assoc.find? key out = some .null ↔
        key = networkType ∧ isTrueAt "router:external" object = false ∧
          Assoc.find? networkType object = some .null) := by
  refine ⟨_, network_preparedAs options object, fun key hkey => ?_⟩
  rw [find?_hardware_prepared hobject hkey]
  exact hardwareField_eq_null_iff hkey

/-- A network whose type is null is sent with this null, and with no other one. -/
theorem null_type_sent :
    ∃ out, PreparedAs .default .network
        (networkOn [(networkType, .null), (physicalNetwork, .null)] false) out ∧
      Assoc.find? networkType out = some .null ∧ Assoc.find? physicalNetwork out ≠ some .null := by
  have hsorted : Assoc.Sorted
      (networkOn [(networkType, .null), (physicalNetwork, .null)] false) :=
    Assoc.sorted_iff_keys.2 (by decide)
  obtain ⟨out, hout, hnulls⟩ := null_hardware_sent_iff .default hsorted
  exact ⟨out, hout, (hnulls networkType (by decide)).2 ⟨rfl, rfl, rfl⟩,
    fun hnull => absurd ((hnulls physicalNetwork (by decide)).1 hnull).1 (by decide)⟩

end NetSweep.Migration
