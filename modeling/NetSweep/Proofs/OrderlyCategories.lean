import NetSweep.Proofs.AskedChanges
import NetSweep.Proofs.TypicalStores

/-!
# The order inside the categories

What the changes of each category delete, in which order.  In a typical store they go leaves first,
except for objects that are tangled, as soon as nothing is left that had to go in an earlier
category.
-/

namespace NetSweep

open Cleanup Store Change

namespace Cleanup.Setting

variable {s : Setting Store} {b : Store} {a k : Address} {kind : Kind} {parents : List String}
  {rules : List Narrowing} {gone : Address → Prop}

/-! ## What the lists give -/

section

variable (hs : s.OnStore true)

include hs

theorem OnStore.sorted_ids (hw : b.WellFormed) (hlength : parents.length = kind.parentCount) :
    ((s.seen kind parents b).map Resource.id).Pairwise (· < ·) := by
  have haccess : requireAccess true kind parents = .ok () := requireAccess_of_passthrough hlength
  rw [hs.seen_eq haccess, List.map_map, List.pairwise_map]
  refine List.Pairwise.imp_of_mem ?_ (hw.sorted.sublist List.filter_sublist)
  intro o o' ho ho' hlt
  obtain ⟨ho, hpick⟩ := List.mem_filter.1 ho
  obtain ⟨ho', hpick'⟩ := List.mem_filter.1 ho'
  rw [hw.address_of_inList ho hpick, hw.address_of_inList ho' hpick', Address.mk_lt_mk] at hlt
  exact (hlt.resolve_left (lt_irrefl _)).2

variable (hauthority : s.authority = none) (h : Typical s.config b)

include hauthority h

/-- Everything that is stored is listed as owned. -/
theorem OnStore.mem_seenOwned {r : Resource} (hr : b.find? k = some r) (rules : List Narrowing) :
    r ∈ s.seenOwned k.kind k.parents rules b ∧ r.id = k.id := by
  have haccess : requireAccess true k.kind k.parents = .ok () :=
    requireAccess_of_passthrough (h.wellFormed.fits hr).depth
  refine hs.mem_seenOwned_of_found h.wellFormed h.lists haccess hr ?_
  simp [owns, h.marked hr, hauthority, withinAuthority]

omit hauthority in
theorem OnStore.mem_seen {r : Resource} (hr : b.find? k = some r) :
    r ∈ s.seen k.kind k.parents b ∧ r.id = k.id :=
  hs.mem_seen_of_found h.wellFormed h.lists
    (requireAccess_of_passthrough (h.wellFormed.fits hr).depth) hr

theorem OnStore.delete_mem_clearing (hk : b.find? k ≠ none) (rules : List Narrowing) :
    .delete .owned k ∈ s.clearing k.kind k.parents rules b := by
  obtain ⟨r, hr⟩ := Option.ne_none_iff_exists'.1 hk
  obtain ⟨hmem, hid⟩ := hs.mem_seenOwned hauthority h hr rules
  refine List.mem_map.2 ⟨r, hmem, ?_⟩
  rw [hid]

theorem OnStore.fells_clearing (hk : b.find? k ≠ none) (rules : List Narrowing) :
    Fells (s.clearing k.kind k.parents rules b) k :=
  ⟨_, hs.delete_mem_clearing hauthority h hk rules, rfl⟩

omit hauthority in
theorem OnStore.fells_emptying (hk : b.find? k ≠ none) :
    Fells (s.emptying k.kind k.parents b) k := by
  obtain ⟨r, hr⟩ := Option.ne_none_iff_exists'.1 hk
  have haccess : requireAccess true k.kind k.parents = .ok () :=
    requireAccess_of_passthrough (h.wellFormed.fits hr).depth
  exact ⟨_, hs.delete_mem_emptying h.wellFormed h.lists haccess hk, rfl⟩

end

theorem kind_of_fells_clearing (hfells : Fells (s.clearing kind parents rules b) k) :
    k.kind = kind := by
  obtain ⟨r, -, rfl⟩ := (fells_deletes (by decide)).1 hfells
  rfl

theorem kind_of_fells_emptying (hfells : Fells (s.emptying kind parents b) k) : k.kind = kind := by
  obtain ⟨r, -, rfl⟩ := (fells_deletes (by decide)).1 hfells
  rfl

/-- Leaves can be deleted in any order. -/
theorem leavesFirst_of_leaves {cs : List Change} (h : Typical s.config b)
    (hleaves : ∀ k, Fells cs k → k.kind ∈ Kind.leaves) : LeavesFirst b gone cs :=
  .of_all fun k hk _ hobs => absurd hobs (h.leaf_unobstructed (hleaves k hk))

theorem leavesFirst_firewallRemoval (tag : TagPredicate) :
    LeavesFirst b gone (s.firewallRemoval b tag) := by
  refine .of_all fun k hk => ?_
  obtain ⟨kind, -, hfells⟩ := fells_flatMap.1 hk
  exact absurd hfells not_fells_shared

/-- Whether each kind of a list comes after all that depend on it, some having come before. -/
def leavesFirstKinds : List Kind → List Kind → Bool
  | _, [] => true
  | seen, kind :: kinds =>
    (Kind.all.all fun j => kind ∉ j.dependencies || j ∈ seen) &&
      leavesFirstKinds (kind :: seen) kinds

/-- Parts for one kind each, if what is in the way of a part's objects depends on the kind and has a
property, and the parts for kinds delete all with that property. -/
theorem leavesFirst_layers {seen kinds : List Kind} {part : Kind → List Change}
    {Q : Address → Prop} (horder : leavesFirstKinds seen kinds = true)
    (hobstructs : ∀ kind ∈ kinds, ∀ k, Fells (part kind) k → ∀ a, b.Obstructs a k →
      kind ∈ a.kind.dependencies ∧ Q a)
    (hfells : ∀ a, a.kind ∈ kinds → Q a → Fells (part a.kind) a)
    (hseen : ∀ a, a.kind ∈ seen → Q a → gone a) :
    LeavesFirst b gone (kinds.flatMap part) := by
  induction kinds generalizing seen gone with
  | nil => trivial
  | cons kind kinds ih =>
    obtain ⟨hfirst, hrest⟩ := Bool.and_eq_true_iff.1 horder
    rw [List.flatMap_cons]
    refine (LeavesFirst.of_all fun k hk a hobs => ?_).append (ih hrest
      (fun kind' hkind' => hobstructs kind' (List.mem_cons_of_mem _ hkind'))
      (fun a ha => hfells a (List.mem_cons_of_mem _ ha)) fun a ha hQ => ?_)
    · obtain ⟨hdependent, hQ⟩ := hobstructs kind List.mem_cons_self k hk a hobs
      have hbefore := List.all_eq_true.1 hfirst a.kind (Kind.mem_all _)
      exact hseen a (by simpa [hdependent] using hbefore) hQ
    · rcases List.mem_cons.1 ha with rfl | ha
      · exact .inr (hfells a List.mem_cons_self hQ)
      · exact .inl (hseen a ha hQ)

/-! ## What each category deletes -/

section

variable (hs : s.OnStore true) (hauthority : s.authority = none) (h : Typical s.config b)

include h

theorem leavesFirst_segmentInterfaces : LeavesFirst b gone (s.changes .segmentInterfaces b) := by
  refine leavesFirst_of_leaves h fun k hk => ?_
  rcases fells_append.1 hk with hk | hk
  · obtain ⟨segment, -, hk⟩ := fells_flatMap.1 hk
    rcases fells_append.1 hk with hk | hk
    · rw [kind_of_fells_emptying hk]
      decide
    · split at hk
      · cases fells_singleton.1 hk
      · simp [Fells] at hk
  · obtain ⟨router, -, hk⟩ := fells_flatMap.1 hk
    obtain ⟨service, -, hk⟩ := fells_flatMap.1 hk
    obtain ⟨r, -, rfl⟩ := (fells_deletes (by decide)).1 hk
    show Kind.tier1SegmentInterface ∈ Kind.leaves
    decide

theorem leavesFirst_qosPolicies
    (hcleared : ∀ a, a.kind ∈ Category.qosPolicies.needs → b.find? a = none) :
    LeavesFirst b gone (s.changes .qosPolicies b) := by
  refine .of_all fun k hk a hobs => ?_
  have hdependent := h.dependent hobs
  rw [kind_of_fells_clearing hk] at hdependent
  have ha := Kind.dependent_of_qosProfile hdependent
  exact absurd (hcleared a (by simp [ha, Category.needs])) hobs.2.1

include hs hauthority

theorem leavesFirst_securityGroups
    (huntangled : ∀ a k, Category.securityGroups.Tangles a k → ¬ b.Obstructs a k) :
    LeavesFirst b gone (s.changes .securityGroups b) := by
  have hmaps : LeavesFirst b gone
      (s.clearing .communicationMap [s.config.domain] [.id .securityGroups] b) :=
    leavesFirst_of_leaves h fun k hk => by
      rw [kind_of_fells_clearing hk]
      decide
  refine hmaps.append (.of_all fun k hk a hobs => ?_)
  have hk := kind_of_fells_clearing hk
  have hdependent := h.dependent hobs
  rw [hk] at hdependent
  rcases Kind.dependent_of_group hdependent with ha | ha
  · -- a security policy lies in the domain, so it has just been deleted
    have hparents := h.placed hobs.2.1 (by rw [ha]; decide)
    have hfells := hs.fells_clearing hauthority h hobs.2.1 [.id .securityGroups]
    rw [ha, hparents] at hfells
    exact .inr hfells
  · exact absurd hobs (huntangled a k ⟨ha, hk⟩)

theorem leavesFirst_kinds {kinds : List Kind} (hkinds : ∀ kind ∈ kinds, kind.parentCount = 0)
    (horder : leavesFirstKinds [] kinds = true) :
    LeavesFirst b gone (kinds.flatMap fun kind => s.clearing kind [] [] b) := by
  refine leavesFirst_layers (Q := fun a => b.find? a ≠ none) horder (fun kind _ k hk a hobs => ?_)
    (fun a ha hstored => ?_) fun a ha => absurd ha List.not_mem_nil
  · rw [← kind_of_fells_clearing hk]
    exact ⟨h.dependent hobs, hobs.2.1⟩
  · have hfells := hs.fells_clearing hauthority h hstored []
    rwa [h.parents_eq_nil hstored (hkinds _ ha)] at hfells

theorem leavesFirst_loadBalancers : LeavesFirst b gone (s.changes .loadBalancers b) := by
  have hfirewall : LeavesFirst b gone ((s.seenOwned .lbService [] [] b).flatMap fun r =>
      s.firewallRemoval b (serviceTag r)) :=
    .flatMap fun _ _ _ _ => leavesFirst_firewallRemoval _
  have hcounts : ∀ kind ∈ loadBalancerKinds, kind.parentCount = 0 := fun kind hkind =>
    (loadBalancerKinds_spec kind hkind).2
  exact hfirewall.append
    (leavesFirst_kinds hs hauthority h hcounts (by decide))

theorem leavesFirst_dhcp
    (hserving : ServesDhcp b) : LeavesFirst b gone (s.changes .dhcp b) := by
  rw [changes, hs.allowsPassthrough, if_pos rfl]
  refine .append (leavesFirst_of_leaves h fun k hk => ?_) (.of_all fun k hk a hobs => ?_)
  · obtain ⟨port, -, hk⟩ := fells_flatMap.1 hk
    rw [servicePortRemoval] at hk
    split at hk
    · obtain ⟨c, hc, hfirm⟩ := hk
      rcases List.mem_cons.1 hc with rfl | hc
      · cases hfirm
      · obtain rfl := List.mem_singleton.1 hc
        obtain rfl := Option.some.inj hfirm
        show Kind.logicalPort ∈ Kind.leaves
        decide
    · simp [Fells] at hk
  · have hdependent := h.dependent hobs
    rw [kind_of_fells_clearing hk] at hdependent
    have ha := Kind.dependent_of_dhcpServer hdependent
    have hparents := h.parents_eq_nil hobs.2.1 (by rw [ha]; rfl)
    -- a logical port has just been deleted
    obtain ⟨r, hr⟩ := Option.ne_none_iff_exists'.1 hobs.2.1
    obtain ⟨hmem, hid⟩ := hs.mem_seenOwned hauthority h hr [.attachmentId .dhcpServiceBindings]
    rw [ha, hparents] at hmem
    refine .inr (fells_flatMap.2 ⟨r, hmem, ?_⟩)
    rw [servicePortRemoval, if_pos (hserving hr ha)]
    refine ⟨_, List.mem_cons_of_mem _ (List.mem_singleton_self _), ?_⟩
    rw [firm?, hid]
    cases a
    simp_all

/-! ## What lies inside ports, segments and routers -/

omit hauthority in
theorem fells_port_binding {segment port : String} (ha : b.find? a ≠ none)
    (hkind : a.kind ∈ Kind.portBindings) (hparents : a.parents = [segment, port]) :
    Fells (s.portRemoval b segment port) a := by
  have hfells := hs.fells_emptying h ha
  rw [hparents] at hfells
  exact fells_append.2 (.inl (fells_flatMap.2 ⟨a.kind, hkind, hfells⟩))

/-- What is done for each object that is listed as owned is done for one that is stored. -/
theorem subset_flatMap_owned (hk : b.find? k ≠ none) (rules : List Narrowing)
    (f : String → List Change) :
    f k.id ⊆ (s.seenOwned k.kind k.parents rules b).flatMap fun r => f r.id := by
  obtain ⟨r, hr⟩ := Option.ne_none_iff_exists'.1 hk
  obtain ⟨hmem, hid⟩ := hs.mem_seenOwned hauthority h hr rules
  intro c hc
  exact List.mem_flatMap.2 ⟨r, hmem, by rwa [hid]⟩

theorem portRemoval_subset {segment port : String}
    (hport : b.find? { kind := .segmentPort, parents := [segment], id := port } ≠ none) :
    s.portRemoval b segment port ⊆ s.portsRemoval b segment :=
  subset_flatMap_owned hs hauthority h hport _ (s.portRemoval b segment)

theorem segmentRemoval_subset {segment : String}
    (hsegment : b.find? { kind := .segment, parents := [], id := segment } ≠ none) :
    s.segmentRemoval b segment ⊆ s.changes .segments b :=
  subset_flatMap_owned hs hauthority h hsegment _ (s.segmentRemoval b)

theorem routerRemoval_subset {router : String}
    (hrouter : b.find? { kind := .tier1, parents := [], id := router } ≠ none) :
    s.routerRemoval b router ⊆ s.changes .tier1Routers b :=
  subset_flatMap_owned hs hauthority h hrouter _ (s.routerRemoval b)

theorem fells_segment_port {segment : String} (ha : b.find? a ≠ none)
    (hkind : a.kind = .segmentPort) (hparents : a.parents = [segment]) :
    Fells (s.portsRemoval b segment) a := by
  obtain ⟨kind, parents, port⟩ := a
  obtain rfl : kind = .segmentPort := hkind
  obtain rfl : parents = [segment] := hparents
  have hport : Fells (s.portRemoval b segment port)
      { kind := .segmentPort, parents := [segment], id := port } :=
    fells_append.2 (.inr (fells_singleton.2 rfl))
  exact hport.mono (portRemoval_subset hs hauthority h ha)

omit hauthority in
theorem fells_router_part {router : String} (ha : b.find? a ≠ none)
    (hkind : a.kind ∈ routerParts) (hparents : a.parents = [router]) :
    Fells (s.routerRemoval b router) a := by
  have hfells := hs.fells_emptying h ha
  rw [hparents] at hfells
  have hparts : Fells (routerParts.flatMap fun kind => s.emptying kind [router] b) a :=
    fells_flatMap.2 ⟨a.kind, hkind, hfells⟩
  rw [routerRemoval, ← List.singleton_append]
  exact fells_append.2 (.inr (fells_append.2 (.inr (fells_append.2 (.inl hparts)))))

omit h hauthority in
theorem sorted_owned (hw : b.WellFormed) (rules : List Narrowing)
    (hlength : parents.length = kind.parentCount) :
    ((s.seenOwned kind parents rules b).map Resource.id).Pairwise (· < ·) :=
  (hs.sorted_ids hw hlength).sublist (List.filter_sublist.map _)

/-- An object that is stored has its place in the list, and the smaller ids come before. -/
theorem mem_before {k : Address} (hk : b.find? k ≠ none) {rules : List Narrowing}
    {before after : List Resource} {r : Resource}
    (hsplit : s.seenOwned k.kind k.parents rules b = before ++ r :: after) (hlt : k.id < r.id) :
    ∃ r' ∈ before, r'.id = k.id := by
  obtain ⟨r', hr'⟩ := Option.ne_none_iff_exists'.1 hk
  obtain ⟨hmem, hid⟩ := hs.mem_seenOwned hauthority h hr' rules
  have hsorted := sorted_owned hs h.wellFormed rules (h.wellFormed.fits hr').depth
  exact ⟨r', mem_before_of_lt hsorted hsplit hmem (hid ▸ hlt), hid⟩

theorem leavesFirst_tier1Routers
    (hcleared : ∀ a, a.kind ∈ Category.tier1Routers.needs → b.find? a = none)
    (huntangled : ∀ a k, Category.tier1Routers.Tangles a k → ¬ b.Obstructs a k) :
    LeavesFirst b gone (s.changes .tier1Routers b) := by
  refine .flatMap fun before router after hsplit => ?_
  have hparts : LeavesFirst b (fun a => gone a ∨ ∃ r ∈ before, Fells (s.routerRemoval b r.id) a)
      (routerParts.flatMap fun kind => s.emptying kind [router.id] b) := by
    refine .of_all fun k hk a hobs => ?_
    obtain ⟨kind, hkind, hfells⟩ := fells_flatMap.1 hk
    rw [← kind_of_fells_emptying hfells] at hkind
    have hcases : k.kind ∈ Kind.leaves ∨ k.kind = .tier1LocaleService := by
      revert hkind
      cases k.kind <;> decide
    rcases hcases with hleaf | hservice
    · exact absurd hobs (h.leaf_unobstructed hleaf)
    · have ha := Kind.dependent_of_localeService (hservice ▸ h.dependent hobs)
      exact absurd (hcleared a (by simp [ha, Category.needs])) hobs.2.1
  refine .append (.single nofun)
    (.append (leavesFirst_firewallRemoval _) (.append (hparts.mono fun a ha => ?_) (.single ?_)))
  · exact .inl (.inl ha)
  · intro k hk a hobs
    obtain rfl := Option.some.inj hk
    rcases Kind.dependent_of_tier1 (h.dependent hobs) with ha | ha | ha
    · exact absurd (hcleared a (by simp [ha, Category.needs])) hobs.2.1
    · exact absurd (hcleared a (by simp [ha, Category.needs])) hobs.2.1
    · obtain ⟨other, hparents, hcontains, hother⟩ := h.router_of_part hobs.2.1 ha
      rcases lt_trichotomy other router.id with hlt | rfl | hlt
      · -- the other router has been deleted, with all its parts
        obtain ⟨r, hr, hid⟩ := mem_before hs hauthority h hother hsplit hlt
        have hfells := fells_router_part hs h hobs.2.1 ha hparents
        exact .inl (.inl (.inl (.inr ⟨r, hr, by rwa [hid]⟩)))
      · have hfells := hs.fells_emptying h hobs.2.1
        rw [hparents] at hfells
        exact .inr (fells_flatMap.2 ⟨a.kind, ha, hfells⟩)
      · exact absurd hobs (huntangled a _ ⟨ha, Address.liesAfter_of_lt hcontains hlt⟩)

/-- What is in the way of a segment's port, but lies in no later port, has been deleted before. -/
theorem fells_before_port {before before' after after' : List Resource} {segment port : Resource}
    (hsplit : s.seenOwned .segment [] [.id .networks] b = before ++ segment :: after)
    (hsplit' : s.seenOwned .segmentPort [segment.id] [.id .ports, .id .portMappings] b =
      before' ++ port :: after')
    (hobs : b.Obstructs a { kind := .segmentPort, parents := [segment.id], id := port.id })
    (huntangled : ¬ a.LiesAfter { kind := .segmentPort, parents := [segment.id], id := port.id }) :
    (∃ r ∈ before, Fells (s.segmentRemoval b r.id) a) ∨
      (∃ r ∈ before', Fells (s.portRemoval b segment.id r.id) a) ∨
      Fells (Kind.portBindings.flatMap fun kind => s.emptying kind [segment.id, port.id] b) a := by
  have ha : a.kind ∈ Kind.portBindings := Kind.dependent_of_segmentPort (h.dependent hobs)
  obtain ⟨segment', port', hparents, hcontains, hport'⟩ := h.port_of_binding hobs.2.1 ha
  have hfells := fells_port_binding hs h hobs.2.1 ha hparents
  have hnot := fun hlt => huntangled ⟨_, hcontains, rfl, Address.mk_lt_mk.2 hlt⟩
  rcases lt_trichotomy segment' segment.id with hlt | rfl | hlt
  · -- an earlier segment
    obtain ⟨outer, houter, -, hstored⟩ := h.segment_of_port hport' rfl
    obtain rfl : segment' = outer := by simpa using houter
    obtain ⟨r, hr, hid⟩ := mem_before hs hauthority h hstored hsplit hlt
    refine .inl ⟨r, hr, ?_⟩
    rw [hid]
    exact fells_append.2 (.inl (hfells.mono (portRemoval_subset hs hauthority h hport')))
  · rcases lt_trichotomy port' port.id with hlt | rfl | hlt
    · obtain ⟨r, hr, hid⟩ := mem_before hs hauthority h hport' hsplit' hlt
      exact .inr (.inl ⟨r, hr, by rwa [hid]⟩)
    · have hown := hs.fells_emptying h hobs.2.1
      rw [hparents] at hown
      exact .inr (.inr (fells_flatMap.2 ⟨a.kind, ha, hown⟩))
    · exact absurd (.inr ⟨rfl, hlt⟩) hnot
  · exact absurd (.inl (List.cons_lt_cons_iff.2 (.inl hlt))) hnot

theorem leavesFirst_segments
    (hcleared : ∀ a, a.kind ∈ Category.segments.needs → b.find? a = none)
    (huntangled : ∀ a k, Category.segments.Tangles a k → ¬ b.Obstructs a k) :
    LeavesFirst b gone (s.changes .segments b) := by
  refine .flatMap fun before segment after hsplit => ?_
  refine .append (.flatMap fun before' port after' hsplit' => ?_) (.append ?_ (.single ?_))
  · refine .append (leavesFirst_of_leaves h fun k hk => ?_) (.single ?_)
    · obtain ⟨kind, hkind, hk⟩ := fells_flatMap.1 hk
      have hleaves : ∀ kind ∈ Kind.portBindings, kind ∈ Kind.leaves := by decide
      rw [kind_of_fells_emptying hk]
      exact hleaves kind hkind
    · intro k hk a hobs
      obtain rfl := Option.some.inj hk
      have ha := Kind.dependent_of_segmentPort (h.dependent hobs)
      have hbefore := fells_before_port hs hauthority h hsplit hsplit' hobs
        fun hafter => huntangled a _ ⟨List.mem_cons_of_mem Kind.segmentPort ha, hafter⟩ hobs
      rcases hbefore with hearlier | hearlier | hown
      · exact .inl (.inl (.inr hearlier))
      · exact .inl (.inr hearlier)
      · exact .inr hown
  · refine leavesFirst_of_leaves h fun k hk => ?_
    split at hk
    · obtain ⟨r, -, rfl⟩ := (fells_deletes (by decide)).1 hk
      show Kind.logicalPort ∈ Kind.leaves
      decide
    · simp [Fells] at hk
  · intro k hk a hobs
    obtain rfl := Option.some.inj hk
    rcases Kind.dependent_of_segment (h.dependent hobs) with ha | ha | ha
    · exact absurd (hcleared a (by simp [ha, Category.needs])) hobs.2.1
    · exact absurd (hcleared a (by simp [ha, Category.needs])) hobs.2.1
    · obtain ⟨other, hparents, hcontains, hother⟩ := h.segment_of_port hobs.2.1 ha
      rcases lt_trichotomy other segment.id with hlt | rfl | hlt
      · obtain ⟨r, hr, hid⟩ := mem_before hs hauthority h hother hsplit hlt
        have hfells := fells_segment_port hs hauthority h hobs.2.1 ha hparents
        exact .inl (.inl (.inr ⟨r, hr, fells_append.2 (.inl (by rwa [hid]))⟩))
      · exact .inl (.inr (fells_segment_port hs hauthority h hobs.2.1 ha hparents))
      · exact absurd hobs (huntangled a _ ⟨by simp [ha], Address.liesAfter_of_lt hcontains hlt⟩)

/-- In a typical store the changes of a category go leaves first, unless something is tangled. -/
theorem leavesFirst_changes (category : Category)
    (hcleared : ∀ a, a.kind ∈ category.needs → b.find? a = none)
    (hserving : category = .dhcp → ServesDhcp b)
    (huntangled : ∀ a k, category.Tangles a k → ¬ b.Obstructs a k) :
    LeavesFirst b gone (s.changes category b) := by
  cases category with
  | securityGroups => exact leavesFirst_securityGroups hs hauthority h huntangled
  | segmentInterfaces => exact leavesFirst_segmentInterfaces h
  | segments => exact leavesFirst_segments hs hauthority h hcleared huntangled
  | qosPolicies => exact leavesFirst_qosPolicies h hcleared
  | loadBalancers => exact leavesFirst_loadBalancers hs hauthority h
  | dhcp => exact leavesFirst_dhcp hs hauthority h (hserving rfl)
  | tier1Routers => exact leavesFirst_tier1Routers hs hauthority h hcleared huntangled

/-! ## What the categories have to remove -/

theorem fells_static_binding (hk : b.find? k ≠ none) (hkind : k.kind = .segmentDhcpStaticBinding) :
    Fells (s.changes .segmentInterfaces b) k := by
  have hparent : k.kind.parent? = some .segment := by
    rw [hkind]
    rfl
  obtain ⟨parents, id, hparents, hdepth, -, hsegment⟩ := h.container hk hparent
  obtain rfl := List.length_eq_zero_iff.1 hdepth
  obtain ⟨r, hr⟩ := Option.ne_none_iff_exists'.1 hsegment
  obtain ⟨hmem, hid⟩ := hs.mem_seenOwned hauthority h hr [.id .networks]
  have hfells := hs.fells_emptying h hk
  rw [hkind, hparents] at hfells
  refine fells_append.2 (.inl (fells_flatMap.2 ⟨r, hmem, fells_append.2 (.inl ?_)⟩))
  rwa [hid]

theorem fells_interface (hk : b.find? k ≠ none) (hkind : k.kind = .tier1SegmentInterface) :
    Fells (s.changes .segmentInterfaces b) k := by
  have hparent : k.kind.parent? = some .tier1LocaleService := by
    rw [hkind]
    rfl
  obtain ⟨parents, service, hparents, -, -, hservice⟩ := h.container hk hparent
  obtain ⟨router, hrouterOf, -, hrouter⟩ := h.router_of_part hservice (by simp [routerParts])
  obtain rfl : parents = [router] := hrouterOf
  obtain ⟨rs, hrs⟩ := Option.ne_none_iff_exists'.1 hservice
  obtain ⟨rr, hrr⟩ := Option.ne_none_iff_exists'.1 hrouter
  obtain ⟨hmemr, hidr⟩ := hs.mem_seenOwned hauthority h hrr [.id .routers]
  obtain ⟨hmems, hids⟩ := hs.mem_seen h hrs
  have hfells := hs.fells_emptying h hk
  rw [hkind, hparents] at hfells
  refine fells_append.2 (.inr (fells_flatMap.2 ⟨rr, hmemr, fells_flatMap.2 ⟨rs, ?_, ?_⟩⟩))
  · rwa [hidr]
  · obtain ⟨r, hr, hkr⟩ := (fells_deletes (by decide)).1 hfells
    rw [hidr, hids]
    exact (fells_deletes (by decide)).2 ⟨r, hr, hkr⟩

theorem fells_cleared {category : Category} (hk : b.find? k ≠ none)
    (hkind : k.kind ∈ category.clears) : Fells (s.changes category b) k := by
  cases category with
  | segmentInterfaces =>
    rcases List.mem_pair.1 hkind with hkind | hkind
    · exact fells_static_binding hs hauthority h hk hkind
    · exact fells_interface hs hauthority h hk hkind
  | segments =>
    rcases List.mem_cons.1 hkind with hkind | hkind
    · obtain ⟨kind, parents, segment⟩ := k
      obtain rfl : kind = .segment := hkind
      obtain rfl : parents = [] := h.parents_eq_nil hk rfl
      have hself : Fells (s.segmentRemoval b segment)
          { kind := .segment, parents := [], id := segment } :=
        fells_append.2 (.inr (fells_append.2 (.inr (fells_singleton.2 rfl))))
      exact hself.mono (segmentRemoval_subset hs hauthority h hk)
    · obtain ⟨segment, port, hparents, -, hport⟩ := h.port_of_binding hk hkind
      obtain ⟨segment', hof, -, hsegment⟩ := h.segment_of_port hport rfl
      obtain rfl : segment = segment' := by simpa using hof
      have hfells := fells_port_binding hs h hk hkind hparents
      have hports := hfells.mono (portRemoval_subset hs hauthority h hport)
      exact (fells_append.2 (.inl hports)).mono (segmentRemoval_subset hs hauthority h hsegment)
  | loadBalancers =>
    have hkind : k.kind = .lbService := List.mem_singleton.1 hkind
    have hfells := hs.fells_clearing hauthority h hk []
    rw [h.parents_eq_nil hk (by rw [hkind]; rfl), hkind] at hfells
    exact fells_append.2 (.inr (fells_flatMap.2 ⟨.lbService, by decide, hfells⟩))
  | _ => exact absurd hkind List.not_mem_nil

end

end Cleanup.Setting

end NetSweep
