import NetSweep.Proofs.PreparedFields

/-!
# Preparing again

What has been prepared is prepared already.  An adjustment that has been made has nothing to do any
more, and those after it leave it so: most write no field that it looks at, and the gateway that an
external network gets is none of the values that an earlier adjustment would take away.  The one
exception is the name of an internal network, which is moved out of the way again.
-/

namespace NetSweep.Migration

variable {kind : ObjectKind} {options : Options} {object out m : Members} {parent : Option Json}
  {log : List Log.Record} {name : String} {a b : Adjustment} {steps : List Adjustment}
  {reads writes reads' writes' : List String}

/-! ## Adjustments with nothing left to do -/

/-- The adjustment has nothing to do on an object. -/
def Adjustment.Settled (a : Adjustment) (kind : ObjectKind) (options : Options)
    (m : Members) : Prop := (a kind options m).1 = m

/-- An adjustment that finds its own fields in order has nothing to do. -/
theorem Adjustment.Within.settled (ha : a.Within reads writes) (hm : Assoc.Sorted m)
    (h : ∀ key ∈ writes, Assoc.find? key (a kind options m).1 = Assoc.find? key m) :
    a.Settled kind options m :=
  (ha.sorted kind options m hm).ext hm fun key => by
    by_cases hkey : key ∈ writes
    · exact h key hkey
    · exact ha.keeps kind options m key hkey

/-- An adjustment of one field has nothing to do once it is made, if what follows from the field's
value has nothing else to follow from it. -/
theorem Adjustment.Rebinds.done {field : String} {f : Options → Option Json → Option Json}
    (h : a.Rebinds field f) (ha : a.Within reads writes)
    (hf : ∀ v, f options (f options v) = f options v) (hm : Assoc.Sorted m) :
    a.Settled kind options (a kind options m).1 :=
  ha.settled (ha.sorted kind options m hm) fun key _ => by
    rw [h, h]
    split
    · exact hf _
    · rfl

/-- An adjustment that never gives another one anything to do. -/
def Adjustment.Spares (b a : Adjustment) (kind : ObjectKind) (options : Options) : Prop :=
  ∀ m, Assoc.Sorted m → a.Settled kind options m → a.Settled kind options (b kind options m).1

/-- An adjustment is spared by one that writes nothing that it looks at. -/
theorem Adjustment.Within.spared (ha : a.Within reads writes) (hb : b.Within reads' writes')
    (hapart : ∀ key ∈ writes', key ∉ writes ++ reads) : b.Spares a kind options := by
  intro m hm h
  have hsorted := hb.sorted kind options m hm
  have halike : Alike (writes ++ reads) (b kind options m).1 m := fun key hkey =>
    hb.keeps kind options m key fun hmem => hapart key hmem hkey
  refine ha.settled hsorted fun key hkey => ?_
  calc Assoc.find? key (a kind options (b kind options m).1).1
      = Assoc.find? key (a kind options m).1 :=
        ha.follows kind options _ m hsorted hm halike key hkey
    _ = Assoc.find? key m := by rw [h]
    _ = Assoc.find? key (b kind options m).1 := (halike.of_append_left key hkey).symm

theorem Adjustment.Within.spared_by_all {fields : List String} (ha : a.Within reads writes)
    (h : WrittenWithin fields steps) (hapart : ∀ key ∈ fields, key ∉ writes ++ reads) :
    ∀ b ∈ steps, b.Spares a kind options := by
  intro b hb
  obtain ⟨reads', writes', hwithin, hwrites⟩ := h b hb
  exact ha.spared hwithin fun key hkey => hapart key (hwrites hkey)

/-- Each adjustment of a list has nothing to do once it is made, and none of those after it gives
it anything to do. -/
structure Lasting (kind : ObjectKind) (options : Options) (steps : List Adjustment) : Prop where
  sorted : ∀ a ∈ steps, ∀ m, Assoc.Sorted m → Assoc.Sorted (a kind options m).1
  done : ∀ a ∈ steps, ∀ m, Assoc.Sorted m → a.Settled kind options (a kind options m).1
  spared : steps.Pairwise fun a b => b.Spares a kind options

theorem Lasting.nil : Lasting kind options [] :=
  ⟨List.forall_mem_nil _, List.forall_mem_nil _, .nil⟩

theorem Lasting.cons (ha : a.Within reads writes)
    (hdone : ∀ {m}, Assoc.Sorted m → a.Settled kind options (a kind options m).1)
    (hspared : ∀ b ∈ steps, b.Spares a kind options) (h : Lasting kind options steps) :
    Lasting kind options (a :: steps) where
  sorted := List.forall_mem_cons.2 ⟨ha.sorted kind options, h.sorted⟩
  done := List.forall_mem_cons.2 ⟨fun _ => hdone, h.done⟩
  spared := List.pairwise_cons.2 ⟨hspared, h.spared⟩

theorem settled_adjustAll (hsorted : ∀ b ∈ steps, ∀ m, Assoc.Sorted m →
      Assoc.Sorted (b kind options m).1)
    (hspared : ∀ b ∈ steps, b.Spares a kind options)
    (hm : Assoc.Sorted m) (h : a.Settled kind options m) :
    a.Settled kind options (adjustAll kind options steps m).1 := by
  induction steps generalizing m with
  | nil => exact h
  | cons b steps ih =>
    rw [adjustAll_cons_fst]
    exact ih (fun c hc => hsorted c (List.mem_cons_of_mem _ hc))
      (fun c hc => hspared c (List.mem_cons_of_mem _ hc))
      (hsorted b List.mem_cons_self m hm) (hspared b List.mem_cons_self m hm h)

/-- After lasting adjustments none of them has anything to do. -/
theorem Lasting.settled (h : Lasting kind options steps) (hm : Assoc.Sorted m) :
    ∀ a ∈ steps, a.Settled kind options (adjustAll kind options steps m).1 := by
  induction steps generalizing m with
  | nil => exact List.forall_mem_nil _
  | cons b steps ih =>
    obtain ⟨hsorted, hdone, hspared⟩ := h
    obtain ⟨hfirst, hrest⟩ := List.pairwise_cons.1 hspared
    have hlater : ∀ c ∈ steps, c ∈ b :: steps := fun c hc => List.mem_cons_of_mem _ hc
    have hb := hsorted b List.mem_cons_self m hm
    intro a ha
    rw [adjustAll_cons_fst]
    rcases List.mem_cons.1 ha with rfl | ha
    · exact settled_adjustAll (fun c hc => hsorted c (hlater c hc)) hfirst hb
        (hdone a List.mem_cons_self m hm)
    · exact ih ⟨fun c hc => hsorted c (hlater c hc), fun c hc => hdone c (hlater c hc), hrest⟩
        hb a ha

theorem adjustAll_of_settled (h : ∀ a ∈ steps, a.Settled kind options m) :
    (adjustAll kind options steps m).1 = m := by
  induction steps with
  | nil => rfl
  | cons a steps ih =>
    rw [adjustAll_cons_fst, h a List.mem_cons_self]
    exact ih fun b hb => h b (List.mem_cons_of_mem _ hb)

/-! ## Each adjustment by itself -/

theorem withoutQosPolicy_done (hm : Assoc.Sorted m) :
    Adjustment.Settled withoutQosPolicy kind options (withoutQosPolicy kind options m).1 :=
  rebinds_withoutQosPolicy.done within_withoutQosPolicy (fun v => by split <;> rfl) hm

theorem withoutNullHardware_settled (hm : Assoc.Sorted m)
    (h : ∀ key ∈ [physicalNetwork, segmentationId], Assoc.find? key m ≠ some .null) :
    Adjustment.Settled withoutNullHardware kind options m :=
  within_withoutNullHardware.settled hm fun key hkey => by
    rw [find?_withoutNullHardware hm, if_neg]
    rintro ⟨-, hnull⟩
    exact h key hkey (of_decide_eq_true hnull)

theorem not_null_of_settled (hm : Assoc.Sorted m)
    (h : Adjustment.Settled withoutNullHardware kind options m) :
    ∀ key ∈ [physicalNetwork, segmentationId], Assoc.find? key m ≠ some .null := by
  intro key hkey hnull
  have hfind : Assoc.find? key (withoutNullHardware kind options m).1 = _ :=
    find?_withoutNullHardware hm key
  rw [h, if_pos ⟨hkey, decide_eq_true hnull⟩, hnull] at hfind
  cases hfind

theorem withoutNullHardware_done (hm : Assoc.Sorted m) :
    Adjustment.Settled withoutNullHardware kind options (withoutNullHardware kind options m).1 := by
  refine withoutNullHardware_settled (within_withoutNullHardware.sorted kind options m hm) ?_
  intro key hkey
  rw [find?_withoutNullHardware hm]
  split
  · simp
  · rename_i hother
    exact fun hnull => hother ⟨hkey, decide_eq_true hnull⟩

theorem destinationNetwork_settled (hm : Assoc.Sorted m)
    (h : ∀ key ∈ lostFields (stringAt? networkType m), Assoc.find? key m = none) :
    Adjustment.Settled destinationNetwork kind options m :=
  within_destinationNetwork.settled hm fun key _ => by
    rw [find?_destinationNetwork]
    split
    · rename_i hlost
      exact (h key hlost).symm
    · rfl

theorem destinationNetwork_done (hm : Assoc.Sorted m) :
    Adjustment.Settled destinationNetwork kind options (destinationNetwork kind options m).1 := by
  refine destinationNetwork_settled (within_destinationNetwork.sorted kind options m hm) ?_
  intro key hkey
  rw [stringAt?, find?_destinationNetwork] at hkey
  rw [find?_destinationNetwork]
  split at hkey
  · -- the type is lost, so that nothing else is
    cases hkey
  · exact if_pos hkey

theorem destinationGateway_done (hm : Assoc.Sorted m) :
    Adjustment.Settled destinationGateway kind options (destinationGateway kind options m).1 := by
  have hkeeps := within_destinationGateway.keeps kind options m
  refine within_destinationGateway.settled (within_destinationGateway.sorted kind options m hm) ?_
  intro key hkey
  have hexternal : isTrueAt "router:external" (destinationGateway kind options m).1 =
      isTrueAt "router:external" m := by
    rw [isTrueAt, hkeeps _ (by decide), isTrueAt]
  have hgateway : gatewayOf options (destinationGateway kind options m).1 =
      gatewayOf options m := by
    rw [gatewayOf, idText, hkeeps _ (by decide), gatewayOf, idText]
  rw [find?_destinationGateway, hexternal, hgateway, find?_destinationGateway]
  split <;> rfl

theorem knownHints_knownHints (options : Options) (hints : Json) :
    knownHints options (knownHints options hints) = knownHints options hints := by
  cases hints with
  | array hints =>
    rw [knownHints]
    split
    · rename_i hknown
      rw [knownHints, if_pos hknown]
    · rw [knownHints]
      split <;> rfl
  | _ => rfl

theorem knownZonesOnly_done (hm : Assoc.Sorted m) :
    Adjustment.Settled knownZonesOnly kind options (knownZonesOnly kind options m).1 := by
  refine rebinds_knownZonesOnly.done within_knownZonesOnly (fun v => ?_) hm
  rw [Option.map_map]
  exact congrArg (Option.map · v) (funext (knownHints_knownHints options))

theorem fittingIpv6Modes_done (hm : Assoc.Sorted m) :
    Adjustment.Settled fittingIpv6Modes kind options (fittingIpv6Modes kind options m).1 := by
  have hsorted := within_fittingIpv6Modes.sorted kind options m hm
  have hfamily : family? (fittingIpv6Modes kind options m).1 = family? m := by
    rw [family?, within_fittingIpv6Modes.keeps _ _ _ _ (by decide), family?]
  refine within_fittingIpv6Modes.settled hsorted fun key hkey => ?_
  rw [find?_fittingIpv6Modes hsorted, hfamily, isBlankAt, isNullAt, stringAt?,
    find?_fittingIpv6Modes hm]
  by_cases hlost : key ∈ ipv6Modes ∧
      (family? m = some 4 ∨ family? m = some 6 ∧ isBlankAt key m)
  · rw [if_pos hlost]
    split <;> rfl
  · rw [if_neg hlost]
    exact if_neg hlost

theorem fewPairs_fewPairs (hmax : 1 ≤ options.maxAddressPairs) (pairs : Json) :
    (fewPairs options pairs).bind (fewPairs options) = fewPairs options pairs := by
  cases pairs with
  | array pairs =>
    cases pairs with
    | nil => rfl
    | cons pair pairs =>
      obtain ⟨more, hmore⟩ : ∃ more, options.maxAddressPairs = more + 1 :=
        ⟨options.maxAddressPairs - 1, by omega⟩
      simp [fewPairs, hmore, List.take_take]
  | _ => rfl

theorem fewEnoughPairs_done (hmax : 1 ≤ options.maxAddressPairs) (hm : Assoc.Sorted m) :
    Adjustment.Settled fewEnoughPairs kind options (fewEnoughPairs kind options m).1 := by
  refine rebinds_fewEnoughPairs.done within_fewEnoughPairs (fun v => ?_) hm
  rw [Option.bind_assoc]
  exact congrArg v.bind (funext (fewPairs_fewPairs hmax))

theorem securityOrLearning_done (hm : Assoc.Sorted m) :
    Adjustment.Settled securityOrLearning kind options (securityOrLearning kind options m).1 := by
  have hwhole : isTorn (securityOrLearning kind options m).1 = false := by
    rw [isTorn, isTrueAt, isTrueAt, find?_securityOrLearning, find?_securityOrLearning]
    cases htorn : isTorn m with
    | true => simp
    | false => simpa [isTorn, isTrueAt] using htorn
  refine within_securityOrLearning.settled (within_securityOrLearning.sorted kind options m hm) ?_
  intro key _
  rw [find?_securityOrLearning, hwhole]
  simp

theorem destinationInterface_done (hm : Assoc.Sorted m) :
    Adjustment.Settled destinationInterface kind options
      (destinationInterface kind options m).1 := by
  have hid : idText (destinationInterface kind options m).1 = idText m := by
    rw [idText, within_destinationInterface.keeps _ _ _ _ (by decide), idText]
  have hsorted := within_destinationInterface.sorted kind options m hm
  refine within_destinationInterface.settled hsorted fun key _ => ?_
  rw [find?_destinationInterface, hid, find?_destinationInterface]
  split
  · rw [← Option.or_assoc, Option.or_self]
  · rfl

/-! ## The provider fields of a network -/

theorem destinationNetwork_spares_nulls :
    Adjustment.Spares destinationNetwork withoutNullHardware kind options := by
  intro m hm h
  refine withoutNullHardware_settled (within_destinationNetwork.sorted kind options m hm) ?_
  intro key hkey
  rw [find?_destinationNetwork]
  split
  · simp
  · exact not_null_of_settled hm h key hkey

theorem destinationGateway_spares_nulls :
    Adjustment.Spares destinationGateway withoutNullHardware kind options := by
  intro m hm h
  refine withoutNullHardware_settled (within_destinationGateway.sorted kind options m hm) ?_
  intro key hkey
  rw [find?_destinationGateway]
  split
  · split
    · simp
    · simp
  · exact not_null_of_settled hm h key hkey

/-- An external network has no type any more that could cost it fields. -/
theorem destinationGateway_spares_network :
    Adjustment.Spares destinationGateway destinationNetwork kind options := by
  intro m hm h
  by_cases hexternal : isTrueAt "router:external" m
  · refine destinationNetwork_settled (within_destinationGateway.sorted kind options m hm) ?_
    intro key hkey
    rw [stringAt?, find?_destinationGateway, if_pos ⟨hexternal, by decide⟩,
      if_neg (by decide)] at hkey
    cases hkey
  · have hsame : (destinationGateway kind options m).1 = m := by
      rw [destinationGateway, if_neg hexternal]
    rwa [hsame]

/-! ## The adjustments of a kind -/

theorem lasting_networkChecks : Lasting kind options networkChecks := by
  have hzones : WrittenWithin ["availability_zone_hints"] [knownZonesOnly] :=
    .cons within_knownZonesOnly (by decide) .nil
  have hhardware : WrittenWithin (hardwareFields ++ ["availability_zone_hints"])
      [withoutNullHardware, destinationNetwork, destinationGateway, knownZonesOnly] :=
    .cons within_withoutNullHardware (by decide) <|
    .cons within_destinationNetwork (by decide) <|
    .cons within_destinationGateway (by decide) <|
    hzones.mono (by decide)
  refine .cons within_withoutQosPolicy withoutQosPolicy_done
    (within_withoutQosPolicy.spared_by_all hhardware (by decide)) ?_
  refine .cons within_withoutNullHardware withoutNullHardware_done
    (List.forall_mem_cons.2 ⟨destinationNetwork_spares_nulls,
      List.forall_mem_cons.2 ⟨destinationGateway_spares_nulls,
        within_withoutNullHardware.spared_by_all hzones (by decide)⟩⟩) ?_
  refine .cons within_destinationNetwork destinationNetwork_done
    (List.forall_mem_cons.2 ⟨destinationGateway_spares_network,
      within_destinationNetwork.spared_by_all hzones (by decide)⟩) ?_
  refine .cons within_destinationGateway destinationGateway_done
    (within_destinationGateway.spared_by_all hzones (by decide)) ?_
  exact .cons within_knownZonesOnly knownZonesOnly_done (List.forall_mem_nil _) .nil

theorem lasting_port (hmax : 1 ≤ options.maxAddressPairs) :
    Lasting kind options (adjustments .port) := by
  have hinterface : WrittenWithin ["vif_id"] [destinationInterface] :=
    .cons within_destinationInterface (by decide) .nil
  have hsecurity : WrittenWithin ["port_security_enabled", "security_groups", "vif_id"]
      [securityOrLearning, destinationInterface] :=
    .cons within_securityOrLearning (by decide) (hinterface.mono (by decide))
  have hpairs : WrittenWithin
      ["allowed_address_pairs", "port_security_enabled", "security_groups", "vif_id"]
      [fewEnoughPairs, securityOrLearning, destinationInterface] :=
    .cons within_fewEnoughPairs (by decide) (hsecurity.mono (by decide))
  refine .cons within_withoutQosPolicy withoutQosPolicy_done
    (within_withoutQosPolicy.spared_by_all hpairs (by decide)) ?_
  refine .cons within_fewEnoughPairs (fewEnoughPairs_done hmax)
    (within_fewEnoughPairs.spared_by_all hsecurity (by decide)) ?_
  refine .cons within_securityOrLearning securityOrLearning_done
    (within_securityOrLearning.spared_by_all hinterface (by decide)) ?_
  exact .cons within_destinationInterface destinationInterface_done (List.forall_mem_nil _) .nil

theorem lasting_adjustments (hkind : kind ≠ .network) (hmax : 1 ≤ options.maxAddressPairs) :
    Lasting kind options (adjustments kind) := by
  cases kind with
  | network => exact absurd rfl hkind
  | subnet =>
    exact .cons within_fittingIpv6Modes fittingIpv6Modes_done (List.forall_mem_nil _) .nil
  | port => exact lasting_port hmax
  | router =>
    exact .cons within_knownZonesOnly knownZonesOnly_done (List.forall_mem_nil _) .nil
  | _ => exact .nil

/-! ## Prepared objects -/

/-- A prepared object has nothing to be reduced by. -/
theorem reduced_prepared (h : prepare options kind (.object object) parent = .ok (out, log)) :
    reduced kind out = out := by
  have hfilled : fillDescription out = out := by
    rw [fillDescription, if_neg]
    intro hnull
    exact description_not_null h (of_decide_eq_true hnull)
  rw [reduced, hfilled, without, List.filter_eq_self]
  intro member hmember
  refine decide_eq_true fun hdrop => ?_
  exact Assoc.find?_eq_none_iff.1 (prepare_drops h hdrop) (List.mem_map_of_mem hmember)

theorem insideParent_again (hobject : Assoc.Sorted object)
    (h : insideParent kind parent object = .ok out) : insideParent kind parent out = .ok out := by
  obtain ⟨balancer, id, hparent, hid, hnull, rfl⟩ := insideParent_eq_ok_iff.1 h
  have hsorted : ∀ {members : Members}, Assoc.Sorted members →
      Assoc.Sorted (Assoc.insert "loadbalancer_id" id
        (Assoc.insert "loadbalancer" (embedded (.object balancer)) members)) :=
    fun hmembers => Assoc.sorted_insert _ _ (Assoc.sorted_insert _ _ hmembers)
  refine insideParent_eq_ok_iff.2 ⟨balancer, id, hparent, hid, hnull, ?_⟩
  refine (hsorted hobject).ext (hsorted (hsorted hobject)) fun key => ?_
  simp only [Assoc.find?_insert]
  split
  · rfl
  · split <;> rfl

def IsInternalNetwork (options : Options) (kind : ObjectKind) (object : Members)
    (name : String) : Prop :=
  kind = .network ∧ Assoc.find? "name" object = some (.string name) ∧ IsInternalName options name

theorem IsInternalName.append (h : IsInternalName options name) (suffix : String) :
    IsInternalName options (name ++ suffix) := by
  refine ⟨h.1, h.2.trans ?_⟩
  rw [String.toList_append]
  exact List.prefix_append _ _

theorem nameOutOfTheWay_internal (hname : Assoc.find? "name" m = some (.string name))
    (h : IsInternalName options name) :
    (nameOutOfTheWay kind options m).1 = Assoc.insert "name" (.string (name ++ "-old")) m := by
  have hprefix : options.internalName.toList.isPrefixOf name.toList = true :=
    List.isPrefixOf_iff_prefix.2 h.2
  simp [nameOutOfTheWay, stringAt?, hname, Json.string?, h.1, hprefix]

theorem nameOutOfTheWay_settled (hm : Assoc.Sorted m)
    (h : ∀ name, Assoc.find? "name" m = some (.string name) → ¬IsInternalName options name) :
    Adjustment.Settled nameOutOfTheWay kind options m := by
  refine within_nameOutOfTheWay.settled hm fun key hkey => ?_
  obtain rfl := List.mem_singleton.1 hkey
  rw [rebinds_nameOutOfTheWay, if_pos rfl]
  dsimp only
  cases hname : Assoc.find? "name" m with
  | none => rfl
  | some v =>
    cases v with
    | string name => rw [Option.map_some, nameAside, if_neg (h name hname)]
    | _ => rfl

theorem networkChecks_spared :
    ∀ a ∈ networkChecks, Adjustment.Spares nameOutOfTheWay a kind options := by
  simp only [networkChecks, List.forall_mem_cons]
  exact ⟨within_withoutQosPolicy.spared within_nameOutOfTheWay (by decide),
    within_withoutNullHardware.spared within_nameOutOfTheWay (by decide),
    within_destinationNetwork.spared within_nameOutOfTheWay (by decide),
    within_destinationGateway.spared within_nameOutOfTheWay (by decide),
    within_knownZonesOnly.spared within_nameOutOfTheWay (by decide), List.forall_mem_nil _⟩

/-- A network that is adjusted again gets another name at most. -/
theorem adjustAll_network_again (hm : Assoc.Sorted m)
    (h : (adjustAll .network options (adjustments .network) m).1 = out) :
    (adjustAll .network options (adjustments .network) out).1 =
      (nameOutOfTheWay .network options out).1 := by
  rw [adjustAll_network] at h ⊢
  have hout : (adjustAll .network options networkChecks out).1 = out :=
    adjustAll_of_settled fun a ha => h ▸ networkChecks_spared a ha _
      (writtenWithin_networkChecks.sorted hm) (lasting_networkChecks.settled hm a ha)
  rw [hout]

theorem prepare_network_again (hobject : Assoc.Sorted object)
    (h : prepare options .network (.object object) parent = .ok (out, log)) :
    ∃ log', prepare options .network (.object out) parent =
      .ok ((nameOutOfTheWay .network options out).1, log') := by
  have hadjusted := ((prepare_cases h).resolve_right fun hchild => nomatch hchild.1).2
  rw [prepare_alone rfl, reduced_prepared h,
    ← adjustAll_network_again (sorted_reduced .network hobject) hadjusted]
  exact ⟨_, rfl⟩

theorem prepare_other_again (hkind : kind ≠ .network) (hobject : Assoc.Sorted object)
    (hmax : 1 ≤ options.maxAddressPairs)
    (h : prepare options kind (.object object) parent = .ok (out, log)) :
    ∃ log', prepare options kind (.object out) parent = .ok (out, log') := by
  rcases prepare_cases h with ⟨halone, hadjusted⟩ | ⟨hchild, hinside⟩
  · have hsettled := (lasting_adjustments hkind hmax).settled (sorted_reduced kind hobject)
    have hagain : (adjustAll kind options (adjustments kind) out).1 = out :=
      adjustAll_of_settled fun a ha => hadjusted ▸ hsettled a ha
    rw [prepare_alone halone, reduced_prepared h]
    exact ⟨_, congrArg Except.ok (Prod.ext hagain rfl)⟩
  · rw [prepare_child hchild, reduced_prepared h,
      insideParent_again (sorted_reduced kind hobject) hinside]
    exact ⟨_, rfl⟩

theorem find?_name_prepared
    (h : prepare options .network (.object object) parent = .ok (out, log)) :
    Assoc.find? "name" out = (Assoc.find? "name" object).map (nameAside options) := by
  have hadjusted := ((prepare_cases h).resolve_right fun hchild => nomatch hchild.1).2
  have hreduced : Assoc.find? "name" (reduced .network object) = Assoc.find? "name" object :=
    find?_reduced_of_kept object (by decide) (by decide)
  rw [← hadjusted, adjustAll_network, rebinds_nameOutOfTheWay, if_pos rfl,
    writtenWithin_networkChecks.keeps (by decide), hreduced]

theorem internalNetwork_prepared
    (h : prepare options kind (.object object) parent = .ok (out, log))
    (hnetwork : IsInternalNetwork options kind object name) :
    IsInternalNetwork options kind out (name ++ "-old") := by
  obtain ⟨rfl, hname, hinternal⟩ := hnetwork
  refine ⟨rfl, ?_, hinternal.append "-old"⟩
  rw [find?_name_prepared h, hname, Option.map_some, nameAside, if_pos hinternal]

theorem not_internalNetwork_prepared
    (h : prepare options .network (.object object) parent = .ok (out, log))
    (hother : ∀ name, ¬IsInternalNetwork options .network object name) (name : String)
    (hname : Assoc.find? "name" out = some (.string name)) : ¬IsInternalName options name := by
  rw [find?_name_prepared h] at hname
  obtain ⟨v, hv, hsame⟩ := Option.map_eq_some_iff.1 hname
  cases v with
  | string source =>
    have hplain : ¬IsInternalName options source := fun hinternal =>
      hother source ⟨rfl, hv, hinternal⟩
    rw [nameAside, if_neg hplain] at hsame
    obtain rfl := Json.string.inj hsame
    exact hplain
  | _ => cases hsame

/-- An object that is prepared once more stays as it is, but that a network with the name of an
internal one is renamed again, and changes in nothing else.  The keys of the source's object ascend,
as those of canonical values do. -/
theorem prepare_again (hobject : Assoc.Sorted object) (hmax : 1 ≤ options.maxAddressPairs)
    (h : prepare options kind (.object object) parent = .ok (out, log)) :
    ∃ again log', prepare options kind (.object out) parent = .ok (again, log') ∧
      (∀ key, key ≠ "name" → Assoc.find? key again = Assoc.find? key out) ∧
      (∀ name, IsInternalNetwork options kind object name →
        IsInternalNetwork options kind out (name ++ "-old") ∧
        again = Assoc.insert "name" (.string (name ++ "-old" ++ "-old")) out) ∧
      ((∀ name, ¬IsInternalNetwork options kind object name) → again = out) := by
  by_cases hkind : kind = .network
  · subst hkind
    obtain ⟨log', hagain⟩ := prepare_network_again hobject h
    refine ⟨_, log', hagain, fun key hkey => ?_, fun name hnetwork => ?_, fun hother => ?_⟩
    · rw [rebinds_nameOutOfTheWay, if_neg hkey]
    · have hmoved := internalNetwork_prepared h hnetwork
      exact ⟨hmoved, nameOutOfTheWay_internal hmoved.2.1 hmoved.2.2⟩
    · exact nameOutOfTheWay_settled (prepare_sorted h hobject)
        (not_internalNetwork_prepared h hother)
  · obtain ⟨log', hagain⟩ := prepare_other_again hkind hobject hmax h
    exact ⟨out, log', hagain, fun _ _ => rfl, fun _ hnetwork => absurd hnetwork.1 hkind,
      fun _ => rfl⟩

def outerNetwork : Members :=
  [("availability_zone_hints", .array [.string "az-9"]), ("id", .string "ext-1"),
   ("name", .string "inter-edge-net-1"), ("provider:network_type", .string "vlan"),
   ("provider:physical_network", .null), ("router:external", .bool true)]

def Options.outer : Options :=
  { Options.default with zones := some ["az-1"], gateways := [("ext-1", "tier0-a")] }

/-- The network gets its gateway and loses its hint once, and is renamed twice. -/
theorem outer_network_renamed_twice :
    ∃ out log again log', prepare .outer .network (.object outerNetwork) none = .ok (out, log) ∧
      prepare .outer .network (.object out) none = .ok (again, log') ∧
      Assoc.find? "provider:physical_network" again = some (.string "tier0-a") ∧
      Assoc.find? "name" again = some (.string "inter-edge-net-1-old-old") := by
  have hsorted : Assoc.Sorted outerNetwork := by
    rw [Assoc.sorted_iff_keys]
    decide
  obtain ⟨log, hprepare⟩ : ∃ log, prepare .outer .network (.object outerNetwork) none =
      .ok ([("availability_zone_hints", .array []), ("id", .string "ext-1"),
        ("name", .string "inter-edge-net-1-old"),
        ("provider:physical_network", .string "tier0-a"), ("router:external", .bool true)], log) :=
    ⟨_, rfl⟩
  obtain ⟨again, log', hagain, hkeeps, hrenames, -⟩ := prepare_again hsorted (by decide) hprepare
  have hinternal : IsInternalNetwork .outer .network outerNetwork "inter-edge-net-1" :=
    ⟨rfl, rfl, by decide⟩
  refine ⟨_, log, again, log', hprepare, hagain, hkeeps _ (by decide), ?_⟩
  rw [(hrenames _ hinternal).2]
  exact Assoc.find?_insert_self _ _ _

end NetSweep.Migration
