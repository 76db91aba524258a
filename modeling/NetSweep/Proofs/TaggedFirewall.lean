import NetSweep.Proofs.CategoryChanges

/-!
# Which firewall objects are removed

Firewall objects are searched for wherever they are and deleted by their id in the configured
domain.  So what decides about an object is not its own tags alone: an object of another domain
with the same id and the tag will do.
-/

namespace NetSweep.Cleanup.Setting

open Store

variable {s : Setting Store} {p : Bool} {tag : TagPredicate}

/-- Some stored object of the kind and id of the key, whatever contains it, carries the tag. -/
def Linked (tag : TagPredicate) (base : Store) (key : Address) : Prop :=
  ∃ parents r, base.find? { key with parents } = some r ∧ r.hasTag tag = true

theorem mem_firewallRemoval (hs : s.OnStore p) {base : Store} (hw : base.WellFormed)
    {ch : Change} (hch : ch ∈ s.firewallRemoval base tag) :
    ∃ key : Address, ch = .delete .shared key ∧ key.kind ∈ Plan.firewallKinds ∧
      key.parents = s.domainParents key.kind ∧ Linked tag base key := by
  obtain ⟨kind, hkind, hch⟩ := List.mem_flatMap.1 hch
  obtain ⟨r, hr, rfl⟩ := List.mem_map.1 hch
  have haccess : requireApi p kind = .ok () := by
    simp [requireApi, (Kind.firewallKinds_spec kind hkind).1]
  obtain ⟨parents, -, hfound, htag⟩ := hs.find?_of_mem_sought hw haccess hr
  refine ⟨_, rfl, hkind, rfl, parents, r, hfound, ?_⟩
  simpa [Resource.hasAllTags] using htag

theorem firewallRemoval_mem (hs : s.OnStore p) {base : Store} (hw : base.WellFormed)
    (hlists : base.listFailures = []) {key : Address} (hkind : key.kind ∈ Plan.firewallKinds)
    (hparents : key.parents = s.domainParents key.kind) (hlinked : Linked tag base key) :
    .delete .shared key ∈ s.firewallRemoval base tag := by
  obtain ⟨parents, r, hr, htag⟩ := hlinked
  have haccess : requireApi p key.kind = .ok () := by
    simp [requireApi, (Kind.firewallKinds_spec _ hkind).1]
  refine List.mem_flatMap.2 ⟨key.kind, hkind, List.mem_map.2 ⟨r, ?_, ?_⟩⟩
  · rw [hs.sought_eq haccess]
    refine List.mem_map.2 ⟨({ key with parents }, r), List.mem_filter.2 ⟨hw.mem_iff.2 hr, ?_⟩, rfl⟩
    simp [inSearch, hlists, Resource.hasAllTags, htag]
  · rw [← hparents, (hw.fits hr).id]

/-- What becomes of the store does not depend on the policy. -/
theorem sweepFirewall_done (hs : s.OnStore p) (tag : TagPredicate) (r : Run Store)
    (hw : r.backend.WellFormed) :
    ∃ done, done.Sublist (s.firewallRemoval r.backend tag) ∧
      (r.backend.listFailures = [] → done = s.firewallRemoval r.backend tag) ∧
      (s.sweepFirewall tag r).2.backend = Change.applyAll p done r.backend := by
  -- deletes of firewall objects are never fatal, so the same task runs under either policy
  let isolating : Setting Store := { s with policy := .isolate }
  have hs' : isolating.OnStore p := ⟨hs.backend, hs.wet⟩
  have hcarries : CarriesOut isolating p [] r.backend (isolating.sweepFirewall tag)
      (isolating.firewallRemoval r.backend tag) :=
    hs'.sweepFirewall hw tag fun _ _ => List.not_mem_nil
  have hdoes := hcarries.does (.refl hw) r rfl
  have hsame : isolating.sweepFirewall tag r = s.sweepFirewall tag r := rfl
  rw [hsame] at hdoes
  rcases hdoes with ⟨r', hr, hcarried⟩ | ⟨hno, e, r', done, hr, hdone, hb⟩
  · exact ⟨_, .refl _, fun _ => rfl, by rw [hr, hcarried.backend]; rfl⟩
  · refine ⟨done, hdone, fun hf => ?_, by rw [hr, hb]⟩
    cases (hno hf).1

/-- An object that is removed lies in the configured domain, and it or an object of the same kind
and id elsewhere carries the tag.  Such an object is removed unless something keeps it, whether or
not it carries the tag itself; only where no other object shares the id does the tag decide. -/
theorem sweepFirewall_removes_linked (hs : s.OnStore p) (r : Run Store)
    (hfilled : r.backend.Filled) {key : Address} {o : Resource}
    (ho : r.backend.find? key = some o) :
    ((s.sweepFirewall tag r).2.backend.find? key = none →
      key.kind ∈ Plan.firewallKinds ∧ key.parents = s.domainParents key.kind ∧
        Linked tag r.backend key) ∧
    (r.backend.listFailures = [] → r.backend.obstacle? key o = none →
      key.kind ∈ Plan.firewallKinds → key.parents = s.domainParents key.kind →
        Linked tag r.backend key → (s.sweepFirewall tag r).2.backend.find? key = none) ∧
    ((∀ parents o', r.backend.find? { key with parents } = some o' → o'.hasTag tag = true →
        parents = key.parents) →
      (s.sweepFirewall tag r).2.backend.find? key = none → o.hasTag tag = true) := by
  have hw := hfilled.wellFormed
  obtain ⟨done, hdone, hall, hback⟩ := sweepFirewall_done hs tag r hw
  have hmild : ∀ ch ∈ s.firewallRemoval r.backend tag, ch.Mild [] s.config.domain :=
    (hs.sweepFirewall hw tag fun _ _ => List.not_mem_nil).mild
  rw [hback]
  have honly : (Change.applyAll p done r.backend).find? key = none →
      key.kind ∈ Plan.firewallKinds ∧ key.parents = s.domainParents key.kind ∧
        Linked tag r.backend key := fun hgone => by
    obtain ⟨role, hmem⟩ := delete_mem_of_removed ho hgone
    obtain ⟨key', hkey, h⟩ := mem_firewallRemoval hs hw (hdone.subset hmem)
    cases hkey
    exact h
  refine ⟨honly, fun hlists hfree hkind hparents hlinked => ?_, fun halone hgone => ?_⟩
  · have hmem := firewallRemoval_mem hs hw hlists hkind hparents hlinked
    have haccess : requireAccess p key.kind key.parents = .ok () :=
      requireAccess_of_policy (Kind.firewallKinds_spec _ hkind).1 (hw.fits ho).depth
    rw [hall hlists]
    exact (Thinned.refl hw).removed hw rfl hmild hmem haccess ho hfree
  · obtain ⟨-, -, parents, o', ho', htag⟩ := honly hgone
    rw [halone parents o' ho' htag, ho] at ho'
    exact Option.some.inj ho' ▸ htag

/-- The group in the configured domain is another deployment's and goes all the same: the one in
the other domain has its id and the tag. -/
theorem foreign_group_removed_for_twin :
    let s := (Sweep.standard (Store.backend false) none .default).setting .tier1Routers
    let key : Address := { kind := .group, parents := ["default"], id := "g" }
    (complete key (.foreign "g")).hasTag (.exact routerScope "ours") = false ∧
      (s.sweepFirewall (.exact routerScope "ours")
        ((Sweep.standard (Store.backend false) none .default).begun .tier1Routers
          (.start shared))).2.backend.find? key = none := by
  refine ⟨by decide, ?_⟩
  refine (sweepFirewall_removes_linked ⟨rfl, rfl⟩ _ shared_filled rfl).2.1 rfl (by decide)
    (by decide) rfl ⟨["other"], _, rfl, by decide⟩

end NetSweep.Cleanup.Setting
