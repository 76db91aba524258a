import NetSweep.Ownership
import NetSweep.Proofs.DecodedResources
import NetSweep.Proofs.PrintedJson
import NetSweep.Snapshot

/-!
# What is known survives a snapshot

The orchestrator's ids are exported as text and read back, model by model, before they narrow a
cleanup.  On this way none gets lost, none moves to another model, and a model that the snapshot
does not name has no ids, which is not the same as having no rules: a rule that looks for ids in it
finds nothing.
-/

namespace NetSweep

/-! ## Authorities -/

namespace Authority

theorem Model.ctorIdx_injective : Function.Injective Model.ctorIdx := by
  intro a b h
  rw [← Model.ofNat_ctorIdx a, ← Model.ofNat_ctorIdx b]
  exact congrArg Model.ofNat h

instance : IsStrictTotalOrder Model (· < ·) where
  irrefl a := Nat.lt_irrefl a.ctorIdx
  trans _ _ _ := Nat.lt_trans
  trichotomous _ _ hab hba :=
    Model.ctorIdx_injective (Nat.le_antisymm (Nat.not_lt.1 hba) (Nat.not_lt.1 hab))

variable {a : Authority} {m : Model} {id : String} {pairs : List (Model × List String)}

/-- The models ascend, and so do the ids of each, so that neither has one twice. -/
structure Proper (a : Authority) : Prop where
  models : Assoc.Sorted a.ids
  ids : ∀ p ∈ a.ids, p.2.Pairwise (· < ·)

theorem mem_idSet {ids : List String} : id ∈ idSet ids ↔ id ∈ ids := by
  rw [idSet, Assoc.mem_keys_ofList, Assoc.keys_map_pair]

theorem ascending_idSet (ids : List String) : (idSet ids).Pairwise (· < ·) :=
  Assoc.sorted_iff_keys.1 (Assoc.sorted_ofList _)

theorem idSet_of_ascending {ids : List String} (h : ids.Pairwise (· < ·)) : idSet ids = ids := by
  have hkeys : Assoc.keys (ids.map (·, ())) = ids := Assoc.keys_map_pair _ ids
  rw [idSet, Assoc.ofList_of_sorted (Assoc.sorted_iff_keys.2 (hkeys.symm ▸ h)), hkeys]

theorem proper_ofPairs (pairs : List (Model × List String)) : (ofPairs pairs).Proper where
  models := Assoc.sorted_ofList _
  ids p hp := by
    obtain ⟨q, -, rfl⟩ := List.mem_map.1 (Assoc.mem_of_mem_ofList hp)
    exact ascending_idSet q.2

theorem Proper.ofPairs_ids (h : a.Proper) : ofPairs a.ids = a := by
  have hsame : (a.ids.map fun p => (p.1, idSet p.2)) = a.ids := by
    refine (List.map_congr_left fun p hp => ?_).trans (List.map_id a.ids)
    rw [idSet_of_ascending (h.ids p hp)]
    rfl
  rw [ofPairs, hsame, Assoc.ofList_of_sorted h.models]

theorem knows_iff : a.knows m id = true ↔ ∃ ids, Assoc.find? m a.ids = some ids ∧ id ∈ ids := by
  rw [knows, List.contains_iff_mem, idsOf]
  cases Assoc.find? m a.ids <;> simp

theorem find?_ofPairs (m : Model) (pairs : List (Model × List String)) :
    Assoc.find? m (ofPairs pairs).ids = (Assoc.find? m (Assoc.ofList pairs)).map idSet := by
  rw [ofPairs, Assoc.find?_ofList, ← List.map_reverse, Assoc.find?_map, Assoc.find?_ofList]

/-- An id is known if it is among those of the last pair of its model. -/
theorem knows_ofPairs : (ofPairs pairs).knows m id = true ↔
    ∃ before ids after, pairs = before ++ (m, ids) :: after ∧ (∀ p ∈ after, p.1 ≠ m) ∧
      id ∈ ids := by
  rw [knows_iff, find?_ofPairs]
  constructor
  · rintro ⟨_, hfound, hid⟩
    obtain ⟨ids, hids, rfl⟩ := Option.map_eq_some_iff.1 hfound
    obtain ⟨before, after, hsplit, hafter⟩ := Assoc.find?_ofList_eq_some_iff.1 hids
    exact ⟨before, ids, after, hsplit, hafter, mem_idSet.1 hid⟩
  · rintro ⟨before, ids, after, hsplit, hafter, hid⟩
    rw [Assoc.find?_ofList_eq_some_iff.2 ⟨before, after, hsplit, hafter⟩]
    exact ⟨idSet ids, rfl, mem_idSet.2 hid⟩

theorem knows_of_not_mem (h : m ∉ Assoc.keys a.ids) (id : String) : a.knows m id = false := by
  rw [← Bool.not_eq_true, knows_iff, Assoc.find?_eq_none_iff.2 h]
  rintro ⟨ids, ⟨⟩, -⟩

/-! ## As text and back -/

theorem pairOfMember?_strings (p : Model × List String) :
    pairOfMember? (p.1.name, Json.strings p.2) = some p := by
  have hids : (p.2.map Json.string).mapM Json.string? = some p.2 := by
    rw [mapM_eq_some, List.map_map]
    rfl
  simp only [pairOfMember?, Model.ofName?_name, Option.bind_some, Json.strings, Json.array?, hids,
    Option.map_some]

theorem ofJson?_toJson (h : a.Proper) : ofJson? a.toJson = some a := by
  have hpairs : (a.ids.map fun p => (p.1.name, Json.strings p.2)).mapM pairOfMember? =
      some a.ids := by
    rw [mapM_eq_some, List.map_map]
    exact List.map_congr_left fun p _ => pairOfMember?_strings p
  simp only [ofJson?, toJson, Json.object?, Option.bind_some, hpairs, Option.map_some,
    h.ofPairs_ids]

theorem plain_toJson (a : Authority) : Json.Plain Json.maxDepth a.toJson := by
  refine Json.plainMembers_iff.2 fun m hm => ?_
  obtain ⟨p, -, rfl⟩ := List.mem_map.1 hm
  refine Json.plainItems_iff.2 fun v hv => ?_
  obtain ⟨id, -, rfl⟩ := List.mem_map.1 hv
  exact trivial

/-- An authority is read back from its text. -/
theorem parse?_render (h : a.Proper) : parse? a.render = some a := by
  rw [parse?, render, Json.parseAs?_render a.plain_toJson, Option.bind_some, ofJson?_toJson h]

/-! ## Reading every model -/

theorem load_of_total {ε : Type} (ids : Model → List String) :
    load (fun m => (.ok (ids m) : Except ε (List String))) =
      .ok (ofPairs (Model.all.map fun m => (m, ids m))) := rfl

/-- Whatever is known of a model is what the source has of it. -/
theorem knows_of_all (ids : Model → List String) (m : Model) (id : String) :
    (ofPairs (Model.all.map fun m => (m, ids m))).knows m id = (ids m).contains id := by
  have hnodup : (Assoc.keys (Model.all.map fun m => (m, ids m))).Nodup := by
    rw [Assoc.keys_map_pair]
    decide
  have hfound : Assoc.find? m (Assoc.ofList (Model.all.map fun m => (m, ids m))) =
      some (ids m) := by
    rw [Assoc.find?_ofList_of_nodup m hnodup, Assoc.find?_eq_some_iff hnodup]
    exact List.mem_map_of_mem (Model.mem_all m)
  rw [Bool.eq_iff_iff, knows_iff, find?_ofPairs, hfound, List.contains_iff_mem]
  simp [mem_idSet]

end Authority

/-! ## Narrowing -/

namespace Narrowing

def model : Narrowing → Authority.Model
  | .id model | .idStart model _ | .attachmentId model => model

/-- A rule finds nothing in a model without ids. -/
theorem finds_of_unknown {knows : Knowledge} {rule : Narrowing}
    (h : ∀ id, knows rule.model id = false) (r : Resource) : rule.finds knows r = false := by
  cases rule with
  | id model => exact h r.id
  | idStart model length =>
    rw [finds]
    split
    · exact h _
    · rfl
  | attachmentId model =>
    rw [finds]
    split
    · exact h _
    · rfl

end Narrowing

theorem ownedAmong_of_unknown {knows : Knowledge} {rules : List Narrowing} (hrules : rules ≠ [])
    (h : ∀ rule ∈ rules, ∀ id, knows rule.model id = false) (marker : TagPredicate)
    (resources : List Resource) : ownedAmong marker (some knows) rules resources = [] := by
  rw [List.eq_nil_iff_forall_not_mem]
  intro r hr
  obtain ⟨-, -, hwithin⟩ := mem_ownedAmong.1 hr
  have hnone : rules.any (·.finds knows r) = false :=
    List.any_eq_false.2 fun rule hrule => by simp [Narrowing.finds_of_unknown (h rule hrule)]
  simp [withinAuthority, hrules, hnone] at hwithin

namespace Authority

/-- An authority whose models and ids ascend is read back from its text, also from a file that
holds the text.  Loaded from a snapshot that holds it, an id of a model is known exactly if it was,
and none is of a model that the snapshot does not name; so the same objects pass, in the same
order, and none do if there are rules and all of them look in such models.  Where an authority is
made of pairs, its models and ids ascend, and the known ids of a model are those of its last
pair. -/
theorem authority_survives_snapshot (a : Authority) :
    (a.Proper → parse? a.render = some a ∧
      ∀ (f : Files) (path : String), f.read path = .ok a.render →
        Snapshot.ofFile f path = .ok a) ∧
    (∃ loaded, load (Snapshot.source a) = .ok loaded ∧ loaded.Proper ∧
      (∀ (f : Files) (path : String), Snapshot.ofFile f path = .ok a →
        Snapshot.load f path = .ok loaded) ∧
      (∀ m id, loaded.knows m id = a.knows m id) ∧
      (∀ m, m ∉ Assoc.keys a.ids → ∀ id, loaded.knows m id = false) ∧
      ∀ (marker : TagPredicate) (rules : List Narrowing) (resources : List Resource),
        ownedAmong marker (some loaded.knows) rules resources =
          ownedAmong marker (some a.knows) rules resources ∧
        (rules ≠ [] → (∀ rule ∈ rules, rule.model ∉ Assoc.keys a.ids) →
          ownedAmong marker (some loaded.knows) rules resources = [])) ∧
    ∀ pairs : List (Model × List String), (ofPairs pairs).Proper ∧ ∀ (m : Model) (id : String),
      (ofPairs pairs).knows m id = true ↔ ∃ before ids after,
        pairs = before ++ (m, ids) :: after ∧ (∀ p ∈ after, p.1 ≠ m) ∧ id ∈ ids := by
  have hknows : ∀ m id, (ofPairs (Model.all.map fun m => (m, a.idsOf m))).knows m id =
      a.knows m id := knows_of_all a.idsOf
  have hmissing : ∀ m, m ∉ Assoc.keys a.ids →
      ∀ id, (ofPairs (Model.all.map fun m => (m, a.idsOf m))).knows m id = false :=
    fun m hm id => (hknows m id).trans (knows_of_not_mem hm id)
  refine ⟨fun ha => ⟨parse?_render ha, fun f path hread => ?_⟩,
    ⟨_, load_of_total a.idsOf, proper_ofPairs _, fun f path hfile => ?_, hknows, hmissing,
      fun marker rules resources => ⟨?_, fun hrules hunnamed => ?_⟩⟩,
    fun pairs => ⟨proper_ofPairs pairs, fun _ _ => knows_ofPairs⟩⟩
  · rw [Snapshot.ofFile, hread]
    simp only [parse?_render ha]
  · rw [Snapshot.load, hfile]
    exact load_of_total a.idsOf
  · rw [funext fun m => funext (hknows m)]
  · exact ownedAmong_of_unknown hrules (fun rule hrule => hmissing _ (hunnamed rule hrule)) marker
      resources

def exported : Authority :=
  { ids := [(.networks, ["n1", "n2"]), (.qosPolicies, ["q\"1"])] }

def exportFolder : Files := Files.empty.withFile "ids.json" exported.render

/-- Read from the folder, they let a known network through, and no router at all. -/
theorem exported_survives : exported.Proper ∧ parse? exported.render = some exported ∧
    exportFolder.read "ids.json" = .ok exported.render ∧
    ∃ loaded, Snapshot.load exportFolder "ids.json" = .ok loaded ∧
      loaded.knows .qosPolicies "q\"1" = true ∧
      ownedAmong (.any createdScope) (some loaded.knows) [.id .networks, .id .routers]
        [.owned "n2", .owned "n3"] = [.owned "n2"] ∧
      ownedAmong (.any createdScope) (some loaded.knows) [.id .routers, .id .ports]
        [.owned "n2", .owned "n3"] = [] := by
  obtain ⟨htext, ⟨loaded, -, -, hfile, hknows, -, hpass⟩, -⟩ :=
    authority_survives_snapshot exported
  have hproper : exported.Proper :=
    ⟨(by decide : exported.ids.Pairwise fun p q => p.1 < q.1), by decide⟩
  have hread : exportFolder.read "ids.json" = .ok exported.render := by decide +kernel
  obtain ⟨hparse, hofFile⟩ := htext hproper
  refine ⟨hproper, hparse, hread, loaded, hfile _ _ (hofFile _ _ hread), ?_, ?_, ?_⟩
  · rw [hknows]
    decide
  · rw [(hpass _ _ _).1]
    decide
  · exact (hpass _ _ _).2 (by decide) (by decide)

end Authority

end NetSweep
