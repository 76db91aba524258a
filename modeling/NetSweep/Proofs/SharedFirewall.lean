import NetSweep.Proofs.GrantedDeletes
import NetSweep.Proofs.LeavesFirst
import NetSweep.Proofs.TaggedFirewall

/-!
# Firewall objects that are still in use

A firewall object may have several users, so a refused delete is no failure: the last user's cleanup
is expected to remove it.  What decides is the last attempt on the object.  Users that go later in
the same run leave it behind, unused.
-/

namespace NetSweep

open Cleanup Store Change

theorem Kind.childless_firewall {kind : Kind} (h : kind ∈ Plan.firewallKinds) (j : Kind) :
    j.parent? ≠ some kind := by
  revert h
  cases kind <;> cases j <;> decide

namespace Store

variable {altered : List Kind} {domain : String} {p : Bool} {s t : Store} {a k : Address}
  {role : Role}

theorem exists_last_delete {cs : List Change} (h : .delete role k ∈ cs)
    (hrole : ∀ role', .delete role' k ∈ cs → role' = role) :
    ∃ before after, cs = before ++ .delete role k :: after ∧ ∀ role', .delete role' k ∉ after := by
  induction cs with
  | nil => cases h
  | cons c cs ih =>
    by_cases hlater : .delete role k ∈ cs
    · obtain ⟨before, after, rfl, hlast⟩ :=
        ih hlater fun role' hmem => hrole role' (List.mem_cons_of_mem _ hmem)
      exact ⟨c :: before, after, rfl, hlast⟩
    · obtain rfl := (List.mem_cons.1 h).resolve_right hlater
      refine ⟨[], cs, rfl, fun role' hmem => hlater ?_⟩
      rwa [hrole role' (List.mem_cons_of_mem _ hmem)] at hmem

theorem obstructs_iff_refers (hchildless : ∀ kind : Kind, kind.parent? ≠ some k.kind) :
    s.Obstructs a k ↔ a ≠ k ∧ s.Refers a k := by
  constructor
  · rintro ⟨hne, -, hinside | hrefers⟩
    · exact absurd (Address.kind_of_contains hinside) (hchildless _)
    · exact ⟨hne, hrefers⟩
  · rintro ⟨hne, hrefers⟩
    exact ⟨hne, hrefers.stored, .inr hrefers⟩

section

variable (hw : s.WellFormed) {before after : List Change}
  (hmild : ∀ c ∈ before ++ .delete role k :: after, c.Mild altered domain)

include hw hmild

/-- The last delete of a stored object decides whether it stays. -/
theorem gone_iff_free_at_last (hfail : s.deleteFailures = [])
    (hreach : requireAccess p k.kind k.parents = .ok ())
    (hchildless : ∀ kind : Kind, kind.parent? ≠ some k.kind)
    (hlast : ∀ role', .delete role' k ∉ after) :
    (applyAll p (before ++ .delete role k :: after) s).find? k = none ↔
      ∀ a, ¬ (applyAll p before s).Obstructs a k := by
  have hthin : Thinned altered s (applyAll p before s) :=
    (Thinned.refl hw).applyAll hw fun c hc => hmild c (List.mem_append_left _ hc)
  have hwu := hthin.wellFormed hw
  rw [applyAll_append, applyAll_cons]
  cases hu : (applyAll p before s).find? k with
  | none =>
    refine iff_of_true (find?_applyAll_none (find?_apply_none hu)) fun a hobs => ?_
    exact ((obstructs_iff_refers hchildless).1 hobs).2.target_stored hu
  | some r =>
    constructor
    · intro hgone
      cases hnext : ((Change.delete role k).apply p (applyAll p before s)).find? k with
      | none =>
        obtain ⟨-, -, hfree⟩ := delete_of_removed hu hnext
        exact (unused_iff_unobstructed hwu hu).1 (obstacle?_eq_none.1 hfree).2
      | some r' =>
        obtain ⟨role', hmem⟩ := delete_mem_of_removed hnext hgone
        exact absurd hmem (hlast role')
    · intro hfree
      have hfail' : (applyAll p before s).deleteFailures = [] :=
        (congrArg Prod.fst (failures_applyAll p before s)).trans hfail
      have hpass := obstacle?_eq_none_of_unobstructed hwu hfail' hu hfree
      refine find?_applyAll_none ?_
      simp [Change.apply, delete_of_obstacle?_none hreach hu hpass, find?]

end

end Store

namespace Sweep

variable {c : Sweep Store} {p : Bool} {t t' : Trace Store} {report : Report.Section}
  {router key : Address} {r : Resource}

/-- Of the deletes of a firewall object that is linked to a removed router, one is the last. -/
theorem exists_last_attempt (hs : (c.setting .tier1Routers).OnStore p) (hw : t.backend.WellFormed)
    (hlists : t.backend.listFailures = [])
    (hrun : c.sweepCategory .tier1Routers t = (.ok report, t')) (hrouter : router.kind = .tier1)
    (hstored : t.backend.find? router ≠ none) (hgone : t'.backend.find? router = none)
    (hkind : key.kind ∈ Plan.firewallKinds)
    (hplace : key.parents = (c.setting .tier1Routers).domainParents key.kind)
    (hr : t.backend.find? key = some r)
    (htag : r.hasTag (.exact routerScope router.id) = true) :
    ∃ before after, changesSince t t' = before ++ .delete .shared key :: after ∧
      ∀ role, .delete role key ∉ after := by
  obtain ⟨-, hback, -, hasked, hleft⟩ := sweepCategory_events hs hw hrun
  rw [← changesSince_eq hs hw hrun] at hback hasked hleft
  have hroles : ∀ kind ∈ Plan.firewallKinds, Category.tier1Routers.role kind = .shared := by decide
  have hrole : ∀ role, .delete role key ∈ changesSince t t' → role = .shared := fun role hmem =>
    (Setting.deletes_of_mem_changes (hasked.subset hmem)).2.trans (hroles _ hkind)
  refine exists_last_delete ?_ hrole
  cases hkey : t'.backend.find? key with
  | none =>
    rw [hback] at hkey
    obtain ⟨role, hmem⟩ := delete_mem_of_removed hr hkey
    rwa [hrole role hmem] at hmem
  | some r' =>
    -- the router was a candidate, so its firewall was searched for
    obtain ⟨rr, hrr⟩ := Option.ne_none_iff_exists'.1 hstored
    rw [hback] at hgone
    obtain ⟨role, hmem⟩ := delete_mem_of_removed hrr hgone
    have hmem := hasked.subset hmem
    have howned : role = .owned :=
      (Setting.deletes_of_mem_changes hmem).owned_iff.2 (by rw [hrouter]; decide)
    rw [howned] at hmem
    obtain ⟨found, hfound, rfl⟩ := List.mem_map.1 (Setting.mem_candidates.2 hmem)
    refine hleft _ (List.mem_flatMap.2 ⟨found, hfound, Setting.mem_routerRemoval.2
      (.inr (.inl ?_))⟩) (by simp [Change.target, hkey])
    exact Setting.firewallRemoval_mem hs hw hlists hkind hplace ⟨key.parents, r, hr, htag⟩

/-- A firewall object that is linked to a removed router goes if and only if nobody uses it at the
last attempt to delete it.  So it leaks, being left behind with nobody using it, if and only if
somebody uses it then, but all who do go later in the same run. -/
theorem shared_firewall_leaks_iff (p : Bool) (authority : Option Knowledge) (config : Config)
    (hwet : config.dryRun = false) {t : Trace Store} (hfilled : t.backend.Filled)
    (hfail : t.backend.deleteFailures = []) (hlists : t.backend.listFailures = [])
    {report : Report.Section} {router key : Address} {r : Resource} :
    let c := standard (Store.backend p) authority config
    let t' := (c.sweepCategory .tier1Routers t).2
    (c.sweepCategory .tier1Routers t).1 = .ok report → router.kind = .tier1 →
    t.backend.find? router ≠ none → t'.backend.find? router = none →
    key.kind ∈ Plan.firewallKinds →
    (key.parents = if key.kind.parentCount = 0 then [] else [config.domain]) →
    t.backend.find? key = some r → r.hasTag (.exact routerScope router.id) = true →
      ∃ before after, changesSince t t' = before ++ .delete .shared key :: after ∧
        (∀ role, .delete role key ∉ after) ∧
        let last := applyAll p before t.backend
        (t'.backend.find? key = none ↔ ∀ a, a ≠ key → ¬ last.Refers a key) ∧
        (t'.backend.find? key ≠ none ∧ (∀ a, a ≠ key → ¬ t'.backend.Refers a key) ↔
          (∃ a, a ≠ key ∧ last.Refers a key) ∧
            ∀ a, a ≠ key → last.Refers a key → t'.backend.find? a = none) := by
  intro c t' hok hrouter hstored hgone hkind hplace hr htag
  have hrun : c.sweepCategory .tier1Routers t = (.ok report, t') := Prod.ext hok rfl
  have hw := hfilled.wellFormed
  have hs : (c.setting .tier1Routers).OnStore p := onStore rfl hwet
  have hchildless : ∀ kind : Kind, kind.parent? ≠ some key.kind := Kind.childless_firewall hkind
  obtain ⟨before, after, hsplit, hlast⟩ :=
    exists_last_attempt hs hw hlists hrun hrouter hstored hgone hkind hplace hr htag
  obtain ⟨-, hback, -, hasked, -⟩ := sweepCategory_events hs hw hrun
  rw [← changesSince_eq hs hw hrun, hsplit] at hback hasked
  have hmild : ∀ ch ∈ before ++ .delete .shared key :: after,
      ch.Mild Category.tier1Routers.altered config.domain :=
    fun ch hch => mild_of_mem_changes hs hw ch (hasked.subset hch)
  have hreach : requireAccess p key.kind key.parents = .ok () :=
    requireAccess_of_policy (Kind.firewallKinds_spec _ hkind).1 (hw.fits hr).depth
  have hgoes : t'.backend.find? key = none ↔
      ∀ a, a ≠ key → ¬ (applyAll p before t.backend).Refers a key := by
    rw [hback, gone_iff_free_at_last hw hmild hfail hreach hchildless hlast]
    simp only [obstructs_iff_refers hchildless, not_and]
  refine ⟨before, after, hsplit, hlast, hgoes, ?_⟩
  -- who still refers to the object in the end did so at the last attempt, and is left
  have hthin : Thinned [] (applyAll p before t.backend) t'.backend := by
    rw [hback, applyAll_append]
    have hbefore : Thinned [] t.backend (applyAll p before t.backend) :=
      (Thinned.refl hw).applyAll hw fun ch hch => hmild ch (List.mem_append_left _ hch)
    exact (Thinned.refl (hbefore.wellFormed hw)).applyAll (hbefore.wellFormed hw)
      fun ch hch => hmild ch (List.mem_append_right _ hch)
  have hrefers : t'.backend.find? key ≠ none → ∀ a, a ≠ key → (t'.backend.Refers a key ↔
      (applyAll p before t.backend).Refers a key ∧ t'.backend.find? a ≠ none) := by
    intro hkey a hne
    constructor
    · intro hrefers
      have hobs := hthin.obstructs ((obstructs_iff_refers hchildless).2 ⟨hne, hrefers⟩)
      exact ⟨((obstructs_iff_refers hchildless).1 hobs).2, hrefers.stored⟩
    · rintro ⟨hrefers, ha⟩
      have hobs := hthin.still_obstructs ((obstructs_iff_refers hchildless).2 ⟨hne, hrefers⟩)
        List.not_mem_nil ha hkey
      exact ((obstructs_iff_refers hchildless).1 hobs).2
  constructor
  · rintro ⟨hkey, hunused⟩
    refine ⟨?_, fun a hne hused => ?_⟩
    · by_contra hnobody
      exact hkey (hgoes.2 fun a hne hused => hnobody ⟨a, hne, hused⟩)
    · by_contra ha
      exact hunused a hne ((hrefers hkey a hne).2 ⟨hused, ha⟩)
  · rintro ⟨⟨a, hne, hused⟩, hallgone⟩
    have hkey : t'.backend.find? key ≠ none := fun hkey => hgoes.1 hkey a hne hused
    refine ⟨hkey, fun b hneb hrefersb => ?_⟩
    obtain ⟨husedb, hb⟩ := (hrefers hkey b hneb).1 hrefersb
    exact hb (hallgone b hneb husedb)

def nestingGroup : Resource :=
  ((Resource.bare "second").withTag { scope := routerScope, tag := "ours" }).withField "member"
    (.string "/infra/domains/default/groups/first")

def nested : Store :=
  let group : Address := { kind := .group, parents := ["default"], id := "first" }
  let router : Address := { kind := .tier1, parents := [], id := "ours" }
  { Store.empty with
    objects :=
      [(group, complete group
         ((Resource.bare "first").withTag { scope := routerScope, tag := "ours" })),
       ({ group with id := "second" }, complete { group with id := "second" } nestingGroup),
       (router, complete router (.owned "ours"))] }

theorem nested_filled : nested.Filled :=
  Filled.empty.insertAll
    [(.group, ["default"],
        (Resource.bare "first").withTag { scope := routerScope, tag := "ours" }),
      (.group, ["default"], nestingGroup), (.tier1, [], .owned "ours")]
    (by decide) rfl

/-- The first group is refused for the second one's sake, and nobody comes back for it when the
second has gone. -/
theorem nested_group_leaks :
    let c := standard (Store.backend false) none .default
    let t' := (c.sweepCategory .tier1Routers (.start nested)).2
    let first : Address := { kind := .group, parents := ["default"], id := "first" }
    t'.backend.find? first ≠ none ∧ (∀ a, a ≠ first → ¬ t'.backend.Refers a first) ∧
      ∃ before after, changesSince (.start nested) t' = before ++ .delete .shared first :: after ∧
        (∃ a, a ≠ first ∧ (applyAll false before nested).Refers a first) ∧
          ∀ a, a ≠ first → (applyAll false before nested).Refers a first →
            t'.backend.find? a = none := by
  have hok : ((standard (Store.backend false) none .default).sweepCategory .tier1Routers
      (.start nested)).1 =
        .ok { Report.Section.fresh .tier1Routers with candidates := 1, deleted := 1 } := by
    decide +kernel
  have hkeys : Assoc.keys ((standard (Store.backend false) none .default).sweepCategory
      .tier1Routers (.start nested)).2.backend.objects =
        [{ kind := .group, parents := ["default"], id := "first" }] := by decide +kernel
  have hgone : ((standard (Store.backend false) none .default).sweepCategory .tier1Routers
      (.start nested)).2.backend.find? { kind := .tier1, parents := [], id := "ours" } = none := by
    decide +kernel
  have hfilled : (Trace.start nested).backend.Filled := nested_filled
  have hrouter : (Trace.start nested).backend.find?
      { kind := .tier1, parents := [], id := "ours" } ≠ none := by decide
  have hgroup : (Trace.start nested).backend.find?
      { kind := .group, parents := ["default"], id := "first" } = some (complete
        { kind := .group, parents := ["default"], id := "first" }
        ((Resource.bare "first").withTag { scope := routerScope, tag := "ours" })) := rfl
  obtain ⟨before, after, hsplit, -, -, hleaks⟩ := shared_firewall_leaks_iff false none .default rfl
    hfilled rfl rfl hok (by rfl) hrouter hgone (by decide) (by rfl) hgroup (by decide)
  have hkept : ((standard (Store.backend false) none .default).sweepCategory .tier1Routers
      (.start nested)).2.backend.find? { kind := .group, parents := ["default"], id := "first" } ≠
        none := by
    refine Option.ne_none_iff_exists'.2 (Assoc.mem_keys_iff.1 ?_)
    rw [hkeys]
    exact List.mem_singleton_self _
  have hunused : ∀ a, a ≠ { kind := .group, parents := ["default"], id := "first" } →
      ¬ ((standard (Store.backend false) none .default).sweepCategory .tier1Routers
        (.start nested)).2.backend.Refers a
          { kind := .group, parents := ["default"], id := "first" } := by
    intro a hne hrefers
    have hmem := Assoc.mem_keys_iff.2 (Option.ne_none_iff_exists'.1 hrefers.stored)
    rw [hkeys] at hmem
    exact hne (List.mem_singleton.1 hmem)
  exact ⟨hkept, hunused, before, after, hsplit, hleaks.1 ⟨hkept, hunused⟩⟩

end Sweep

end NetSweep
