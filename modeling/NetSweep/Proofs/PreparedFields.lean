import NetSweep.Proofs.AdjustedFields

/-!
# What a prepared object keeps

A kind's adjustments write few fields, and none of those that the kind drops.  So what is dropped
stays away, and every field that is neither dropped nor written has the value that it had at the
source, but for a null description.
-/

namespace NetSweep.Migration

variable {kind : ObjectKind} {options : Options} {object out : Members} {parent : Option Json}
  {log : List Log.Record} {key : String}

/-! ## Before the adjustments -/

theorem find?_fillDescription (key : String) (object : Members) :
    Assoc.find? key (fillDescription object) =
      if key = "description" ∧ Assoc.find? key object = some .null then some (.string "")
      else Assoc.find? key object := by
  unfold fillDescription isNullAt
  by_cases hkey : key = "description"
  · subst hkey
    by_cases hnull : Assoc.find? "description" object = some .null
    · simp [hnull]
    · simp [hnull]
  · have hother : ¬(key = "description" ∧ Assoc.find? key object = some .null) :=
      fun h => hkey h.1
    rw [if_neg hother]
    split
    · exact Assoc.find?_insert_ne hkey _ _
    · rfl

theorem find?_reduced (kind : ObjectKind) (key : String) (object : Members) :
    Assoc.find? key (reduced kind object) =
      if key ∈ kind.dropFields then none else Assoc.find? key (fillDescription object) := by
  rw [reduced, find?_without]

theorem find?_reduced_of_kept (object : Members) (hdrop : key ∉ kind.dropFields)
    (hkey : key ≠ "description") :
    Assoc.find? key (reduced kind object) = Assoc.find? key object := by
  rw [find?_reduced, if_neg hdrop, find?_fillDescription, if_neg fun h => hkey h.1]

theorem alike_reduced {fields : List String}
    (h : ∀ key ∈ fields, key ∉ kind.dropFields ∧ key ≠ "description") (object : Members) :
    Alike fields (reduced kind object) object :=
  fun key hkey => find?_reduced_of_kept object (h key hkey).1 (h key hkey).2

theorem sorted_reduced (kind : ObjectKind) (h : Assoc.Sorted object) :
    Assoc.Sorted (reduced kind object) := by
  refine sorted_without _ ?_
  unfold fillDescription
  split
  · exact Assoc.sorted_insert _ _ h
  · exact h

/-! ## One adjustment after another -/

theorem foldl_adjust (kind : ObjectKind) (options : Options) (steps : List Adjustment)
    (done : Adjusted) :
    steps.foldl (fun done step =>
      let (object, log) := step kind options done.1
      (object, done.2 ++ log)) done =
    ((adjustAll kind options steps done.1).1,
      done.2 ++ (adjustAll kind options steps done.1).2) := by
  induction steps generalizing done with
  | nil => simp [adjustAll]
  | cons step steps ih =>
    rw [adjustAll, List.foldl_cons, List.foldl_cons, ih, ih (_, _)]
    simp

/-- Later adjustments go on with the object, and add to the log. -/
theorem adjustAll_append (kind : ObjectKind) (options : Options) (steps later : List Adjustment)
    (object : Members) : adjustAll kind options (steps ++ later) object =
      ((adjustAll kind options later (adjustAll kind options steps object).1).1,
        (adjustAll kind options steps object).2 ++
          (adjustAll kind options later (adjustAll kind options steps object).1).2) := by
  rw [adjustAll, List.foldl_append, foldl_adjust]
  rfl

theorem adjustAll_cons (kind : ObjectKind) (options : Options) (a : Adjustment)
    (steps : List Adjustment) (object : Members) :
    adjustAll kind options (a :: steps) object =
      ((adjustAll kind options steps (a kind options object).1).1,
        (a kind options object).2 ++
          (adjustAll kind options steps (a kind options object).1).2) := by
  rw [← List.singleton_append, adjustAll_append]
  simp [adjustAll]

theorem adjustAll_cons_fst (kind : ObjectKind) (options : Options) (a : Adjustment)
    (steps : List Adjustment) (object : Members) :
    (adjustAll kind options (a :: steps) object).1 =
      (adjustAll kind options steps (a kind options object).1).1 := by
  rw [adjustAll_cons]

theorem adjustAll_cons_snd (kind : ObjectKind) (options : Options) (a : Adjustment)
    (steps : List Adjustment) (object : Members) :
    (adjustAll kind options (a :: steps) object).2 =
      (a kind options object).2 ++
        (adjustAll kind options steps (a kind options object).1).2 := by
  rw [adjustAll_cons]

/-- The adjustments stay within some fields: each of them writes only such. -/
def WrittenWithin (fields : List String) (steps : List Adjustment) : Prop :=
  ∀ a ∈ steps, ∃ reads writes, a.Within reads writes ∧ writes ⊆ fields

theorem WrittenWithin.nil {fields : List String} : WrittenWithin fields [] :=
  List.forall_mem_nil _

theorem WrittenWithin.cons {fields reads writes : List String} {a : Adjustment}
    {steps : List Adjustment} (ha : a.Within reads writes) (hwrites : writes ⊆ fields)
    (h : WrittenWithin fields steps) : WrittenWithin fields (a :: steps) :=
  List.forall_mem_cons.2 ⟨⟨reads, writes, ha, hwrites⟩, h⟩

theorem WrittenWithin.append {fields : List String} {steps later : List Adjustment}
    (h : WrittenWithin fields steps) (hlater : WrittenWithin fields later) :
    WrittenWithin fields (steps ++ later) :=
  List.forall_mem_append.2 ⟨h, hlater⟩

theorem WrittenWithin.mono {fields more : List String} {steps : List Adjustment}
    (h : WrittenWithin fields steps) (hmore : fields ⊆ more) : WrittenWithin more steps := by
  intro a ha
  obtain ⟨reads, writes, hwithin, hwrites⟩ := h a ha
  exact ⟨reads, writes, hwithin, List.Subset.trans hwrites hmore⟩

theorem WrittenWithin.keeps {fields : List String} {steps : List Adjustment}
    (h : WrittenWithin fields steps) (hkey : key ∉ fields) :
    Assoc.find? key (adjustAll kind options steps object).1 = Assoc.find? key object := by
  induction steps generalizing object with
  | nil => rfl
  | cons a steps ih =>
    obtain ⟨reads, writes, ha, hwrites⟩ := h a List.mem_cons_self
    rw [adjustAll_cons_fst, ih fun b hb => h b (List.mem_cons_of_mem _ hb)]
    exact ha.keeps kind options object key fun hmem => hkey (hwrites hmem)

theorem WrittenWithin.sorted_of_mem {fields : List String} {steps : List Adjustment}
    (h : WrittenWithin fields steps) {a : Adjustment} (ha : a ∈ steps)
    (hobject : Assoc.Sorted object) : Assoc.Sorted (a kind options object).1 := by
  obtain ⟨reads, writes, hwithin, -⟩ := h a ha
  exact hwithin.sorted kind options object hobject

theorem WrittenWithin.sorted {fields : List String} {steps : List Adjustment}
    (h : WrittenWithin fields steps) (hobject : Assoc.Sorted object) :
    Assoc.Sorted (adjustAll kind options steps object).1 := by
  induction steps generalizing object with
  | nil => exact hobject
  | cons a steps ih =>
    rw [adjustAll_cons_fst]
    exact ih (fun b hb => h b (List.mem_cons_of_mem _ hb))
      (h.sorted_of_mem List.mem_cons_self hobject)

/-- The fields that preparing may bind anew, besides the description. -/
def ObjectKind.rewrittenFields : ObjectKind → List String
  | network => "qos_policy_id" :: hardwareFields ++ ["availability_zone_hints", "name"]
  | subnet => ipv6Modes
  | port =>
    ["qos_policy_id", "allowed_address_pairs", "port_security_enabled", "security_groups", "vif_id"]
  | router => ["availability_zone_hints"]
  | loadbalancerListener | loadbalancerPool | loadbalancerMember =>
    ["loadbalancer", "loadbalancer_id"]
  | _ => []

def networkChecks : List Adjustment :=
  [withoutQosPolicy, withoutNullHardware, destinationNetwork, destinationGateway, knownZonesOnly]

theorem adjustments_network : adjustments .network = networkChecks ++ [nameOutOfTheWay] := rfl

theorem adjustAll_network (options : Options) (object : Members) :
    (adjustAll .network options (adjustments .network) object).1 =
      (nameOutOfTheWay .network options (adjustAll .network options networkChecks object).1).1 := by
  rw [adjustments_network, adjustAll_append]
  rfl

theorem writtenWithin_networkChecks :
    WrittenWithin ("qos_policy_id" :: hardwareFields ++ ["availability_zone_hints"])
      networkChecks :=
  .cons within_withoutQosPolicy (by decide) <|
  .cons within_withoutNullHardware (by decide) <|
  .cons within_destinationNetwork (by decide) <|
  .cons within_destinationGateway (by decide) <|
  .cons within_knownZonesOnly (by decide) .nil

theorem writtenWithin_adjustments (kind : ObjectKind) :
    WrittenWithin kind.rewrittenFields (adjustments kind) := by
  cases kind with
  | network =>
    rw [adjustments_network]
    exact (writtenWithin_networkChecks.mono (by decide)).append
      (.cons within_nameOutOfTheWay (by decide) .nil)
  | subnet => exact .cons within_fittingIpv6Modes (by decide) .nil
  | port =>
    exact .cons within_withoutQosPolicy (by decide) <|
      .cons within_fewEnoughPairs (by decide) <|
      .cons within_securityOrLearning (by decide) <|
      .cons within_destinationInterface (by decide) .nil
  | router => exact .cons within_knownZonesOnly (by decide) .nil
  | _ => exact .nil

/-- No kind drops a field and writes it again. -/
theorem not_mem_rewrittenFields (h : key ∈ kind.dropFields) : key ∉ kind.rewrittenFields := by
  revert key
  cases kind <;> decide

theorem description_not_mem_dropFields (kind : ObjectKind) : "description" ∉ kind.dropFields := by
  cases kind <;> decide

theorem description_not_mem_rewrittenFields (kind : ObjectKind) :
    "description" ∉ kind.rewrittenFields := by
  cases kind <;> decide

/-! ## Inside a load balancer -/

/-- A parent takes a child in if it has an id that is not null. -/
theorem insideParent_eq_ok_iff : insideParent kind parent object = .ok out ↔
    ∃ balancer id, parent = some (.object balancer) ∧ Assoc.find? "id" balancer = some id ∧
      id ≠ .null ∧
      out = Assoc.insert "loadbalancer_id" id
        (Assoc.insert "loadbalancer" (embedded (.object balancer)) object) := by
  cases parent with
  | none => simp [insideParent]
  | some parent =>
    cases parent with
    | object balancer =>
      unfold insideParent
      cases hid : Assoc.find? "id" balancer with
      | none => simp [hid]
      | some id => cases id <;> simp [hid, eq_comm]
    | _ => simp [insideParent, Json.get?, Json.object?]

/-- A child is put into its parent and not adjusted. -/
theorem adjustments_of_needsParent (h : kind.needsParent = true) : adjustments kind = [] := by
  cases kind with
  | loadbalancerListener | loadbalancerPool | loadbalancerMember => rfl
  | _ => cases h

theorem prepare_alone (h : kind.needsParent = false) :
    prepare options kind (.object object) parent =
      .ok (adjustAll kind options (adjustments kind) (reduced kind object)) := by
  simp [prepare, h]

theorem prepare_child (h : kind.needsParent = true) :
    prepare options kind (.object object) parent =
      (insideParent kind parent (reduced kind object)).map fun m => (m, []) := by
  simp [prepare, h, adjustments_of_needsParent h, adjustAll]

/-- A prepared object is the reduced one, adjusted or put into its parent. -/
theorem prepare_cases (h : prepare options kind (.object object) parent = .ok (out, log)) :
    (kind.needsParent = false ∧
      (adjustAll kind options (adjustments kind) (reduced kind object)).1 = out) ∨
    (kind.needsParent = true ∧ insideParent kind parent (reduced kind object) = .ok out) := by
  cases hkind : kind.needsParent with
  | false =>
    rw [prepare_alone hkind] at h
    exact .inl ⟨rfl, congrArg Prod.fst (Except.ok.inj h)⟩
  | true =>
    rw [prepare_child hkind] at h
    cases hinside : insideParent kind parent (reduced kind object) with
    | error e =>
      rw [hinside] at h
      cases h
    | ok inside =>
      rw [hinside] at h
      exact .inr ⟨rfl, congrArg Except.ok (congrArg Prod.fst (Except.ok.inj h))⟩

theorem rewrittenFields_of_needsParent (h : kind.needsParent = true) :
    kind.rewrittenFields = ["loadbalancer", "loadbalancer_id"] := by
  cases kind with
  | loadbalancerListener | loadbalancerPool | loadbalancerMember => rfl
  | _ => cases h

theorem prepare_keeps (h : prepare options kind (.object object) parent = .ok (out, log))
    (hkey : key ∉ kind.rewrittenFields) :
    Assoc.find? key out = Assoc.find? key (reduced kind object) := by
  rcases prepare_cases h with ⟨-, rfl⟩ | ⟨hkind, hinside⟩
  · exact (writtenWithin_adjustments kind).keeps hkey
  · obtain ⟨balancer, id, -, -, -, rfl⟩ := insideParent_eq_ok_iff.1 hinside
    rw [rewrittenFields_of_needsParent hkind, List.mem_cons, List.mem_singleton, not_or] at hkey
    rw [Assoc.find?_insert_ne hkey.2, Assoc.find?_insert_ne hkey.1]

theorem prepare_sorted (h : prepare options kind (.object object) parent = .ok (out, log))
    (hobject : Assoc.Sorted object) : Assoc.Sorted out := by
  have hreduced := sorted_reduced kind hobject
  rcases prepare_cases h with ⟨-, rfl⟩ | ⟨-, hinside⟩
  · exact (writtenWithin_adjustments kind).sorted hreduced
  · obtain ⟨balancer, id, -, -, -, rfl⟩ := insideParent_eq_ok_iff.1 hinside
    exact Assoc.sorted_insert _ _ (Assoc.sorted_insert _ _ hreduced)

/-! ## The object as a whole -/

theorem prepare_drops (h : prepare options kind (.object object) parent = .ok (out, log))
    (hkey : key ∈ kind.dropFields) : Assoc.find? key out = none := by
  rw [prepare_keeps h (not_mem_rewrittenFields hkey), find?_reduced, if_pos hkey]

theorem prepare_passes (h : prepare options kind (.object object) parent = .ok (out, log))
    (hdrop : key ∉ kind.dropFields) (hkey : key ∉ kind.rewrittenFields) :
    Assoc.find? key out =
      if key = "description" ∧ Assoc.find? key object = some .null then some (.string "")
      else Assoc.find? key object := by
  rw [prepare_keeps h hkey, find?_reduced, if_neg hdrop, find?_fillDescription]

theorem description_not_null (h : prepare options kind (.object object) parent = .ok (out, log)) :
    Assoc.find? "description" out ≠ some .null := by
  rw [prepare_passes h (description_not_mem_dropFields kind)
    (description_not_mem_rewrittenFields kind)]
  split
  · simp
  · rename_i hnull
    exact fun hfind => hnull ⟨rfl, hfind⟩

/-- No field that the kind drops is in a prepared object, and no null description; and every other
field that the kind's adjustments do not write is there exactly if the source has it, with the
source's value, but that a null description is empty. -/
theorem prepare_drops_and_passes
    (h : prepare options kind (.object object) parent = .ok (out, log)) :
    (∀ key ∈ kind.dropFields, key ∉ Assoc.keys out) ∧
    Assoc.find? "description" out ≠ some .null ∧
    ∀ key, key ∉ kind.dropFields → key ∉ kind.rewrittenFields →
      (key ∈ Assoc.keys out ↔ key ∈ Assoc.keys object) ∧
      Assoc.find? key out =
        if key = "description" ∧ Assoc.find? key object = some .null then some (.string "")
        else Assoc.find? key object := by
  refine ⟨fun key hkey => Assoc.find?_eq_none_iff.1 (prepare_drops h hkey),
    description_not_null h, fun key hdrop hkey => ?_⟩
  have hpass := prepare_passes h hdrop hkey
  refine ⟨?_, hpass⟩
  rw [Assoc.mem_keys_iff, Assoc.mem_keys_iff, hpass]
  split
  · rename_i hnull
    simp [hnull.2]
  · rfl

def edgeNetwork : Members :=
  [("description", .null), ("id", .string "n1"), ("name", .string "inter-edge-net-1"),
   ("shared", .bool true), ("status", .string "ACTIVE")]

/-- The network at the destination has no status and an empty description, and is shared as it was
before. -/
theorem edge_network_stays_shared :
    ∃ out log, prepare .default .network (.object edgeNetwork) none = .ok (out, log) ∧
      "status" ∉ Assoc.keys out ∧ Assoc.find? "description" out = some (.string "") ∧
      Assoc.find? "shared" out = some (.bool true) := by
  have hprepare : prepare .default .network (.object edgeNetwork) none =
      .ok ([("description", .string ""), ("id", .string "n1"),
        ("name", .string "inter-edge-net-1-old"), ("shared", .bool true)], []) := rfl
  obtain ⟨hdrops, -, hpasses⟩ := prepare_drops_and_passes hprepare
  exact ⟨_, _, hprepare, hdrops "status" (by decide),
    (hpasses "description" (by decide) (by decide)).2,
    (hpasses "shared" (by decide) (by decide)).2⟩

end NetSweep.Migration
