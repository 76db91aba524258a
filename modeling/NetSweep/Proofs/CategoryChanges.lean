import NetSweep.Proofs.CarriedOut

/-!
# What the categories do to a store

Each procedure carries out the changes that its category asks for, as they are read off the store
that the procedure starts from.
-/

namespace NetSweep

open Cleanup Store

theorem requireAccess_of_policy {p : Bool} {kind : Kind} {parents : List String}
    (hapi : kind.api = .policy) (hlength : parents.length = kind.parentCount) :
    requireAccess p kind parents = .ok () := by
  simp [requireAccess, requireApi, hapi, hlength]

theorem requireAccess_of_passthrough {kind : Kind} {parents : List String}
    (hlength : parents.length = kind.parentCount) : requireAccess true kind parents = .ok () := by
  simp [requireAccess, requireApi, hlength]

theorem Kind.firewallKinds_spec : ∀ kind ∈ Plan.firewallKinds, kind.api = .policy ∧
    (kind.inDomain = true ∧ kind.parentCount = 1 ∨ kind.parentCount = 0) := by decide

theorem Kind.portBindings_spec : ∀ kind ∈ portBindings, kind.api = .policy ∧
    kind.parentCount = 2 ∧ kind.inDomain = false ∧ kind.parent? = some .segmentPort := by decide

namespace Cleanup.Setting

variable {s : Setting Store} {p : Bool} {base b : Store} {altered : List Kind}

theorem routerParts_spec : ∀ kind ∈ routerParts, kind.api = .policy ∧ kind.parentCount = 1 ∧
    kind.inDomain = false ∧ kind.parent? = some .tier1 := by decide

theorem loadBalancerKinds_spec : ∀ kind ∈ loadBalancerKinds, kind.api = .policy ∧
    kind.parentCount = 0 := by decide

/-! ## What is listed is there -/

theorem OnStore.find?_of_mem_seen (hs : s.OnStore p) (hw : base.WellFormed) {kind : Kind}
    {parents : List String} (haccess : requireAccess p kind parents = .ok ()) {r : Resource}
    (hr : r ∈ s.seen kind parents base) :
    base.find? { kind, parents, id := r.id } = some r := by
  rw [hs.seen_eq haccess] at hr
  obtain ⟨o, ho, rfl⟩ := List.mem_map.1 hr
  obtain ⟨ho, hpick⟩ := List.mem_filter.1 ho
  rw [← hw.address_of_inList ho hpick]
  exact hw.mem_iff.1 ho

theorem OnStore.find?_of_mem_seenOwned (hs : s.OnStore p) (hw : base.WellFormed) {kind : Kind}
    {parents : List String} {rules : List Narrowing}
    (haccess : requireAccess p kind parents = .ok ()) {r : Resource}
    (hr : r ∈ s.seenOwned kind parents rules base) :
    base.find? { kind, parents, id := r.id } = some r ∧ s.owns rules r = true :=
  ⟨hs.find?_of_mem_seen hw haccess (List.mem_filter.1 hr).1, (List.mem_filter.1 hr).2⟩

theorem OnStore.find?_of_mem_sought (hs : s.OnStore p) (hw : base.WellFormed) {kind : Kind}
    {tags : List TagPredicate} (haccess : requireApi p kind = .ok ()) {r : Resource}
    (hr : r ∈ s.sought kind tags base) :
    ∃ parents, parents.length = kind.parentCount ∧
      base.find? { kind, parents, id := r.id } = some r ∧ r.hasAllTags tags = true := by
  rw [hs.sought_eq haccess] at hr
  obtain ⟨⟨key, r⟩, ho, rfl⟩ := List.mem_map.1 hr
  obtain ⟨ho, hpick⟩ := List.mem_filter.1 ho
  have hfound := hw.mem_iff.1 ho
  have hfits := hw.fits hfound
  obtain rfl : key.kind = kind := kind_of_inSearch hpick
  simp only [inSearch, Bool.and_eq_true] at hpick
  exact ⟨key.parents, hfits.depth, hfits.id ▸ hfound, hpick.2.2⟩

/-- What lies inside something that was there and is gone is gone. -/
theorem gone_inside (h : Remains altered s.config.domain base b) (hw : base.WellFormed)
    {o : Address × Resource} (ho : o ∈ base.objects) (hgone : b.find? o.1 = none)
    {inner : Address} (hinner : o.1.contains inner = true) : b.find? inner = none :=
  h.hollow (by simp [hw.mem_iff.1 ho]) hgone hinner

theorem gone_deletes (h : Remains altered s.config.domain base b) (hw : base.WellFormed)
    {o : Address × Resource} (ho : o ∈ base.objects) {outer : Address} (haddr : o.1 = outer)
    (hgone : b.find? o.1 = none) {role : Role} {kind : Kind} {found : List Resource} {c : Change}
    (hc : c ∈ deletes role kind (outer.parents ++ [outer.id]) found)
    (hparent : kind.parent? = some outer.kind) : b.find? c.target = none := by
  subst haddr
  obtain ⟨r, -, rfl⟩ := List.mem_map.1 hc
  exact gone_inside h hw ho hgone (by simp [Address.contains, Change.target, hparent])

/-- Where a firewall object is found and gone, its id is free in the configured domain. -/
theorem gone_firewall (h : Remains altered s.config.domain base b) (hw : base.WellFormed)
    {kind : Kind} (hkind : kind ∈ Plan.firewallKinds) {o : Address × Resource}
    (ho : o ∈ base.objects) (hk : o.1.kind = kind) (hgone : b.find? o.1 = none) :
    b.find? { kind, parents := s.domainParents kind, id := o.2.id } = none := by
  subst hk
  have hfound := hw.mem_iff.1 ho
  have hfits := hw.fits hfound
  have hparents : o.1.parents = s.domainParents o.1.kind := by
    obtain ⟨-, ⟨hdomain, hcount⟩ | hcount⟩ := Kind.firewallKinds_spec _ hkind
    · -- in another domain nothing is gone
      by_contra hne
      have hsame := h.elsewhere hdomain (by simpa [domainParents, hcount] using hne)
      rw [hgone, hfound] at hsame
      cases hsame
    · have hdepth := hfits.depth
      rw [hcount] at hdepth
      simp [domainParents, hcount, List.length_eq_zero_iff.1 hdepth]
  rwa [← hparents, hfits.id]

namespace OnStore

variable (hs : s.OnStore p) (hw : base.WellFormed)

include hs hw

theorem detachSegment (segment : Resource) : CarriesOut s p [.segment] base
    (s.detachSegment segment) (s.detaching base segment) := by
  have hupdate : CarriesOut s p [.segment] base (s.update .segment [] segment.id disconnection)
      [.update { kind := .segment, parents := [], id := segment.id } disconnection] := by
    refine .single ⟨nofun, fun {k body} h => ?_⟩ (requireAccess_of_policy rfl rfl)
      fun _ => hs.does_update
    cases h
    exact ⟨List.mem_singleton_self _, ["connectivity_path", "subnets"], rfl, by decide⟩
  exact (hs.emptying hw (requireAccess_of_policy rfl rfl) (by decide)
    fun h => absurd h (by decide)).seq hw
    (.when fun _ => hupdate)

theorem deleteInterfaces (router service : Resource) (haltered : .tier1SegmentInterface ∉ altered) :
    CarriesOut s p altered base (s.deleteInterfaces router service)
      (deletes .owned .tier1SegmentInterface [router.id, service.id]
        (s.seen .tier1SegmentInterface [router.id, service.id] base)) := by
  have haccess : requireAccess p .tier1SegmentInterface [router.id, service.id] = .ok () :=
    requireAccess_of_policy rfl rfl
  rw [hs.seen_eq haccess]
  refine .deletes hw (hs.finds_listOrNone haccess) (fun o hpick => kind_of_inList hpick ▸ haltered)
    (fun id => hs.deleteOwned haccess nofun) fun o ho hpick b _ hnone => ?_
  rwa [← hw.address_of_inList ho hpick]

theorem unplug (router : Resource) (hservice : .tier1LocaleService ∉ altered)
    (hinterface : .tier1SegmentInterface ∉ altered) :
    CarriesOut s p altered base
      (s.listOrNone .tier1LocaleService [router.id] >>= fun services =>
        Task.each services (s.deleteInterfaces router))
      (s.unplugging base router.id) := by
  have haccess : requireAccess p .tier1LocaleService [router.id] = .ok () :=
    requireAccess_of_policy rfl rfl
  rw [unplugging, hs.seen_eq haccess]
  refine .found hw (hs.finds_listOrNone haccess)
    (fun o hpick => kind_of_inList hpick ▸ hservice)
    (fun o _ _ => hs.deleteInterfaces hw router o.2 hinterface) fun o ho hpick b hb hnone c hc => ?_
  exact gone_deletes hb hw ho (hw.address_of_inList ho hpick) hnone hc rfl

/-- What taking a router off its segments asks for is gone when the router is. -/
theorem gone_unplugging (hb : Remains altered s.config.domain base b)
    {o : Address × Resource} (ho : o ∈ base.objects)
    (haddr : o.1 = { kind := .tier1, parents := [], id := o.2.id })
    (hnone : b.find? o.1 = none) {c : Change} (hc : c ∈ s.unplugging base o.2.id) :
    b.find? c.target = none := by
  obtain ⟨service, hservice, hc⟩ := List.mem_flatMap.1 hc
  rw [hs.seen_eq (requireAccess_of_policy rfl rfl)] at hservice
  obtain ⟨o', ho', rfl⟩ := List.mem_map.1 hservice
  obtain ⟨ho', hpick⟩ := List.mem_filter.1 ho'
  have haddr' := hw.address_of_inList ho' hpick
  have hnone' : b.find? o'.1 = none := gone_inside hb hw ho hnone (by
    rw [haddr, haddr']
    simp [Address.contains, Kind.parent?])
  exact gone_deletes hb hw ho' haddr' hnone' hc rfl

/-- All bindings of a kind inside a port, which may be of any of the three kinds. -/
theorem emptyPort (segment port : String) {kind : Kind} (hkind : kind ∈ Kind.portBindings)
    (haltered : kind ∉ altered) :
    CarriesOut s p altered base (s.deleteContained kind [segment, port])
      (s.emptying kind [segment, port] base) := by
  obtain ⟨hapi, hcount, hdomain, -⟩ := Kind.portBindings_spec kind hkind
  exact hs.emptying hw (requireAccess_of_policy hapi hcount.symm) haltered (by simp [hdomain])

theorem deletePort (segment port : Resource)
    (haltered : ∀ kind ∈ Kind.portBindings, kind ∉ altered) :
    CarriesOut s p altered base (s.deletePort segment port)
      (s.portRemoval base segment.id port.id) :=
  .seq hw
    (.each hw fun kind hkind => hs.emptyPort hw segment.id port.id hkind (haltered kind hkind))
    (hs.deleteOwned (requireAccess_of_policy rfl rfl) nofun)

omit hs in
/-- What removing a port asks for is gone when the port is. -/
theorem gone_portRemoval (hb : Remains altered s.config.domain base b) {segment : String}
    {o : Address × Resource} (ho : o ∈ base.objects)
    (haddr : o.1 = { kind := .segmentPort, parents := [segment], id := o.2.id })
    (hnone : b.find? o.1 = none) {c : Change} (hc : c ∈ s.portRemoval base segment o.2.id) :
    b.find? c.target = none := by
  rcases List.mem_append.1 hc with hc | hc
  · obtain ⟨kind, hkind, hc⟩ := List.mem_flatMap.1 hc
    exact gone_deletes hb hw ho haddr hnone hc (Kind.portBindings_spec kind hkind).2.2.2
  · obtain rfl := List.mem_singleton.1 hc
    rwa [haddr] at hnone

theorem deleteDhcpPorts (hp : p = true) (segment : Resource) (haltered : .logicalPort ∉ altered) :
    CarriesOut s p altered base (s.deleteDhcpPorts segment)
      (s.dhcpPortRemoval base segment.id) := by
  subst hp
  have haccess : requireApi true .logicalPort = .ok () := rfl
  rw [dhcpPortRemoval, hs.sought_eq haccess, deletes_filter]
  refine .found hw (hs.finds_findDhcpPorts haccess segment)
    (fun o hpick => kind_of_inSearch hpick ▸ haltered)
    (fun o _ _ => .when fun _ => hs.deleteAuxiliary (requireAccess_of_passthrough rfl)
      fun h => absurd h (by decide))
    fun o ho hpick b _ hnone c hc => ?_
  split at hc
  · obtain rfl := List.mem_singleton.1 hc
    rwa [hw.address_of_inSearch ho hpick rfl] at hnone
  · cases hc

theorem deleteSegment (segment : Resource) (haltered : .segmentPort ∉ altered)
    (hbindings : ∀ kind ∈ Kind.portBindings, kind ∉ altered) (hlogical : .logicalPort ∉ altered) :
    CarriesOut s p altered base (s.deleteSegment segment) (s.segmentRemoval base segment.id) := by
  have haccess : requireAccess p .segmentPort [segment.id] = .ok () :=
    requireAccess_of_policy rfl rfl
  have hports : CarriesOut s p altered base
      (s.findOwnedOrNone .segmentPort [segment.id] [.id .ports, .id .portMappings] >>= fun ports =>
        Task.each ports (s.deletePort segment))
      ((s.seenOwned .segmentPort [segment.id] [.id .ports, .id .portMappings] base).flatMap
        fun port => s.portRemoval base segment.id port.id) := by
    rw [hs.seenOwned_eq haccess]
    refine .found hw (hs.finds_findOwnedOrNone haccess)
      (fun o hpick => kind_of_inList (Bool.and_eq_true_iff.1 hpick).1 ▸ haltered)
      (fun o _ _ => hs.deletePort hw segment o.2 hbindings) fun o ho hpick b hb hnone c hc => ?_
    exact gone_portRemoval hw hb ho
      (hw.address_of_inList ho (Bool.and_eq_true_iff.1 hpick).1) hnone hc
  have hdhcp : CarriesOut s p altered base
      (if s.backend.allowsPassthrough then s.deleteDhcpPorts segment else pure ())
      (if s.backend.allowsPassthrough then s.dhcpPortRemoval base segment.id else []) :=
    .when fun h => hs.deleteDhcpPorts hw (hs.allowsPassthrough.symm.trans h) segment
      hlogical
  have hself : CarriesOut s p altered base (s.deleteOwned .segment [] segment.id)
      [.delete .owned { kind := .segment, parents := [], id := segment.id }] :=
    hs.deleteOwned (requireAccess_of_policy rfl rfl) nofun
  rw [deleteSegment_eq]
  exact hports.seq hw (hdhcp.seq hw hself)

omit hs in
theorem deleteServicePort (hs : s.OnStore true) (port : Resource) :
    CarriesOut s true [.logicalPort] base (s.deleteServicePort port) (servicePortRemoval port) := by
  have hupdate : CarriesOut s true [.logicalPort] base
      (s.update .logicalPort [] port.id detachment)
      [.update { kind := .logicalPort, parents := [], id := port.id } detachment] := by
    refine .single ⟨fun h => ?_, fun {k body} h => ?_⟩ (requireAccess_of_passthrough rfl)
      fun _ => hs.does_update
    · exact absurd (show Kind.inDomain .logicalPort = true from h) (by decide)
    · cases h
      exact ⟨List.mem_singleton_self _, ["attachment"], rfl, by decide⟩
  exact .when fun _ => hupdate.seq hw
    (hs.deleteOwned (requireAccess_of_passthrough rfl) fun h => absurd h (by decide))

/-! ## Firewalls -/

theorem sweepFirewall (tag : TagPredicate)
    (haltered : ∀ kind ∈ Plan.firewallKinds, kind ∉ altered) :
    CarriesOut s p altered base (s.sweepFirewall tag) (s.firewallRemoval base tag) := by
  rw [sweepFirewall_eq]
  refine .each hw fun kind hkind => ?_
  obtain ⟨hapi, hplace⟩ := Kind.firewallKinds_spec kind hkind
  have haccess : requireApi p kind = .ok () := by simp [requireApi, hapi]
  have hlength : (s.domainParents kind).length = kind.parentCount := by
    rcases hplace with ⟨-, hcount⟩ | hcount <;> simp [domainParents, hcount]
  rw [hs.sought_eq haccess]
  refine .deletes hw (hs.finds_searchAll haccess)
    (fun o hpick => kind_of_inSearch hpick ▸ haltered kind hkind)
    (fun id => hs.deleteShared (requireAccess_of_policy hapi hlength) fun h => ?_)
    fun o ho hpick b hb hnone => ?_
  · rcases hplace with ⟨-, hcount⟩ | hcount <;> simp_all [domainParents, Kind.inDomain]
  · exact gone_firewall hb hw hkind ho (kind_of_inSearch hpick) hnone

theorem emptyRouter (router : String) {kind : Kind} (hkind : kind ∈ routerParts)
    (haltered : kind ∉ altered) :
    CarriesOut s p altered base (s.deleteContained kind [router])
      (s.emptying kind [router] base) := by
  obtain ⟨hapi, hcount, hdomain, -⟩ := routerParts_spec kind hkind
  exact hs.emptying hw (requireAccess_of_policy hapi hcount.symm) haltered (by simp [hdomain])

theorem deleteRouter (router : Resource) (haltered : altered = []) :
    CarriesOut s p altered base (s.deleteRouter router) (s.routerRemoval base router.id) := by
  subst haltered
  exact .seq hw (hs.deleteShared (requireAccess_of_policy rfl rfl) fun _ => rfl)
    ((hs.sweepFirewall hw _ fun _ _ => List.not_mem_nil).seq hw
      (.seq hw (.each hw fun kind hkind => hs.emptyRouter hw router.id hkind List.not_mem_nil)
        (hs.deleteOwned (requireAccess_of_policy rfl rfl) nofun)))

/-! ## Categories -/

theorem clearOutside {kind : Kind} {rules : List Narrowing} (hapi : kind.api = .policy)
    (hcount : kind.parentCount = 0) (haltered : kind ∉ altered) :
    CarriesOut s p altered base
      (s.findOwned kind [] rules >>= fun found =>
        Task.each found fun r => s.deleteOwned kind [] r.id)
      (s.clearing kind [] rules base) :=
  hs.clearing hw (requireAccess_of_policy hapi (by simp [hcount])) haltered
    (by simp [Kind.inDomain, hcount])

theorem clearDomain {kind : Kind} {rules : List Narrowing} (hapi : kind.api = .policy)
    (hcount : kind.parentCount = 1) (haltered : kind ∉ altered) :
    CarriesOut s p altered base
      (s.findOwned kind [s.config.domain] rules >>= fun found =>
        Task.each found fun r => s.deleteOwned kind [s.config.domain] r.id)
      (s.clearing kind [s.config.domain] rules base) :=
  hs.clearing hw (requireAccess_of_policy hapi (by simp [hcount])) haltered fun _ => rfl

/-- A procedure begins with the list of what it is about. -/
theorem beginning {kind : Kind} {rules : List Narrowing}
    (haccess : requireAccess p kind [] = .ok ()) {f : List Resource → Task Store Unit}
    {cs : List Change} (h : CarriesOut s p altered base (f (s.seenOwned kind [] rules base)) cs) :
    (∀ c ∈ cs, c.Mild altered s.config.domain) ∧
      (∀ c ∈ cs, requireAccess p c.target.kind c.target.parents = .ok ()) ∧
      Does s p base (s.findOwned kind [] rules >>= f) cs := by
  refine ⟨h.mild, h.reached, .find (hs.finds_findOwned haccess) ?_⟩
  rw [← hs.seenOwned_eq haccess]
  exact h.does (.refl hw)

/-- A category's procedure carries out the category's changes. -/
theorem sweep (category : Category) :
    (∀ c ∈ s.changes category base, c.Mild category.altered s.config.domain) ∧
      (∀ c ∈ s.changes category base,
        requireAccess p c.target.kind c.target.parents = .ok ()) ∧
      Does s p base (s.sweep category) (s.changes category base) := by
  cases category with
  | securityGroups =>
    have h : CarriesOut s p [] base s.sweepSecurityGroups (s.changes .securityGroups base) := by
      rw [sweepSecurityGroups_eq]
      exact (hs.clearDomain hw rfl rfl List.not_mem_nil).seq hw
        (hs.clearDomain hw rfl rfl List.not_mem_nil)
    exact ⟨h.mild, h.reached, h.does (.refl hw)⟩
  | segmentInterfaces =>
    have haccess : requireAccess p .tier1 [] = .ok () := requireAccess_of_policy rfl rfl
    have hrouters : CarriesOut s p [.segment] base
        (s.findRouters >>= fun routers => Task.each routers fun router =>
          s.listOrNone .tier1LocaleService [router.id] >>= fun services =>
            Task.each services (s.deleteInterfaces router))
        ((s.seenOwned .tier1 [] [.id .routers] base).flatMap fun r => s.unplugging base r.id) := by
      rw [hs.seenOwned_eq haccess]
      refine .found hw (hs.finds_findOwned haccess)
        (fun o hpick => kind_of_inList (Bool.and_eq_true_iff.1 hpick).1 ▸ by decide)
        (fun o _ _ => hs.unplug hw o.2 (by decide) (by decide)) fun o ho hpick b hb hnone c hc => ?_
      exact hs.gone_unplugging hw hb ho
        (hw.address_of_inList ho (Bool.and_eq_true_iff.1 hpick).1) hnone hc
    exact hs.beginning hw (requireAccess_of_policy rfl rfl)
      (.seq hw (.each hw fun segment _ => hs.detachSegment hw segment) hrouters)
  | segments =>
    exact hs.beginning hw (requireAccess_of_policy rfl rfl) (.each hw fun segment _ =>
      hs.deleteSegment hw segment List.not_mem_nil (fun _ _ => List.not_mem_nil) List.not_mem_nil)
  | qosPolicies =>
    have h : CarriesOut s p [] base s.sweepQosPolicies (s.changes .qosPolicies base) :=
      hs.clearOutside hw rfl rfl List.not_mem_nil
    exact ⟨h.mild, h.reached, h.does (.refl hw)⟩
  | loadBalancers =>
    have hkinds : CarriesOut s p [] base
        (Task.each loadBalancerKinds fun kind => s.findOwned kind [] [] >>= fun found =>
          Task.each found fun r => s.deleteOwned kind [] r.id)
        (loadBalancerKinds.flatMap fun kind => s.clearing kind [] [] base) :=
      .each hw fun kind hkind =>
        hs.clearOutside hw (loadBalancerKinds_spec kind hkind).1
          (loadBalancerKinds_spec kind hkind).2 List.not_mem_nil
    exact hs.beginning hw (requireAccess_of_policy rfl rfl)
      (.seq hw (.each hw fun service _ => hs.sweepFirewall hw _ fun _ _ => List.not_mem_nil) hkinds)
  | dhcp =>
    have hp := hs.allowsPassthrough
    cases p with
    | true =>
      have hservers : CarriesOut s true [.logicalPort] base
          (s.findOwned .dhcpServer [] [.id .dhcpServiceBindings] >>= fun servers =>
            Task.each servers fun d => s.deleteOwned .dhcpServer [] d.id)
          (s.clearing .dhcpServer [] [.id .dhcpServiceBindings] base) :=
        hs.clearing hw (requireAccess_of_passthrough rfl) (by decide)
          fun h => absurd h (by decide)
      simp only [Setting.sweep, sweepDhcp, changes, hp, if_true]
      exact hs.beginning hw (requireAccess_of_passthrough rfl)
        (.seq hw (.each hw fun port _ => hs.deleteServicePort hw port) hservers)
    | false =>
      simp only [Setting.sweep, sweepDhcp, changes, hp]
      exact ⟨List.forall_mem_nil _, List.forall_mem_nil _, fun r _ =>
        .inl ⟨_, rfl, .refl rfl rfl ⟨[], (List.append_nil _).symm, rfl⟩⟩⟩
  | tier1Routers =>
    exact hs.beginning hw (requireAccess_of_policy rfl rfl)
      (.each hw fun router _ => hs.deleteRouter hw router rfl)

end OnStore

end Cleanup.Setting

namespace Sweep

variable {c : Sweep Store} {p : Bool} {category : Category} {t : Trace Store}

theorem onStore (hb : c.backend = Store.backend p) (hdry : c.config.dryRun = false) :
    (c.setting category).OnStore p := ⟨hb, hdry⟩

theorem mild_of_mem_changes (hs : (c.setting category).OnStore p) (hw : t.backend.WellFormed) :
    ∀ ch ∈ (c.setting category).changes category t.backend,
      ch.Mild category.altered c.config.domain := (hs.sweep hw category).1

theorem reached_of_mem_changes (hs : (c.setting category).OnStore p) (hw : t.backend.WellFormed) :
    ∀ ch ∈ (c.setting category).changes category t.backend,
      requireAccess p ch.target.kind ch.target.parents = .ok () := (hs.sweep hw category).2.1

/-- The cleanup of a category makes the category's changes and reports those that are refused, or
it makes some of them and ends with an error. -/
theorem sweepCategory_carries (hs : (c.setting category).OnStore p) (hw : t.backend.WellFormed) :
    (∃ r, Carried p ((c.setting category).changes category t.backend) (c.begun category t) r ∧
      c.sweepCategory category t = (.ok r.report, noted (closing r.report) r.toTrace)) ∨
    (t.backend.listFailures = [] → c.config.policies.of category = .propagate ∧
        mishaps p ((c.setting category).changes category t.backend) t.backend ≠ []) ∧
      ∃ e t' done, c.sweepCategory category t = (.error e, t') ∧
        done.Sublist ((c.setting category).changes category t.backend) ∧
        t'.backend = Change.applyAll p done t.backend := by
  rw [sweepCategory_eq]
  rcases (hs.sweep hw category).2.2 (c.begun category t) rfl with
    ⟨r, hr, hcarried⟩ | ⟨hno, e, r, done, hr, hdone, hb⟩
  · rw [hr]
    exact .inl ⟨r, hcarried, rfl⟩
  · rw [hr]
    exact .inr ⟨hno, e, _, done, rfl, hdone, hb⟩

/-- A category that ends well has made its changes, reports those that were refused, and has left
out only changes of what is gone. -/
theorem sweepCategory_of_ok (hs : (c.setting category).OnStore p) (hw : t.backend.WellFormed)
    {report : Report.Section} {t' : Trace Store}
    (hrun : c.sweepCategory category t = (.ok report, t')) :
    t'.backend = Change.applyAll p ((c.setting category).changes category t.backend) t.backend ∧
    report.failures = mishaps p ((c.setting category).changes category t.backend) t.backend ∧
    ∃ events, t'.journal = t.journal ++ events ∧
      (events.filterMap Event.change?).Sublist ((c.setting category).changes category t.backend) ∧
      ∀ ch ∈ (c.setting category).changes category t.backend,
        t'.backend.find? ch.target ≠ none → ch ∈ events.filterMap Event.change? := by
  rcases sweepCategory_carries hs hw with ⟨r, hcarried, hrun'⟩ | ⟨-, e, t'', done, hrun', -⟩
  · obtain ⟨hreport, rfl⟩ := Prod.mk.inj (hrun.symm.trans hrun')
    obtain rfl := Except.ok.inj hreport
    exact ⟨hcarried.backend, hcarried.failures, hcarried.asked⟩
  · rw [hrun] at hrun'
    cases hrun'

/-- A category that ends well leaves its store thinned, with the failures arranged in it. -/
theorem sweepCategory_thins (hs : (c.setting category).OnStore p) (hw : t.backend.WellFormed)
    {report : Report.Section} {t' : Trace Store}
    (hrun : c.sweepCategory category t = (.ok report, t')) :
    Thinned category.altered t.backend t'.backend ∧ t'.backend.failures = t.backend.failures := by
  rw [(sweepCategory_of_ok hs hw hrun).1]
  exact ⟨(Thinned.refl hw).applyAll hw (mild_of_mem_changes hs hw), failures_applyAll p _ _⟩

/-- Where lists are answered, a category ends well if failures are isolated or there are none. -/
theorem sweepCategory_calm (hs : (c.setting category).OnStore p) (hw : t.backend.WellFormed)
    (hlists : t.backend.listFailures = [])
    (hcalm : c.config.policies.of category = .isolate ∨
      mishaps p ((c.setting category).changes category t.backend) t.backend = []) :
    ∃ report t', c.sweepCategory category t = (.ok report, t') := by
  rcases sweepCategory_carries hs hw with ⟨r, -, hrun⟩ | ⟨hno, -⟩
  · exact ⟨_, _, hrun⟩
  · obtain ⟨hpropagate, hmishaps⟩ := hno hlists
    rcases hcalm with hisolate | hnone
    · rw [hpropagate] at hisolate
      cases hisolate
    · exact absurd hnone hmishaps

/-- The cleanup of a category makes the category's changes, or some of them if it ends with an
error. -/
theorem sweepCategory_cases (hs : (c.setting category).OnStore p) (hw : t.backend.WellFormed) :
    (∃ report t', c.sweepCategory category t = (.ok report, t') ∧
      t'.backend =
        Change.applyAll p ((c.setting category).changes category t.backend) t.backend) ∨
    (c.config.policies.of category = .isolate → t.backend.listFailures ≠ []) ∧
      ∃ e t' done, c.sweepCategory category t = (.error e, t') ∧
        done.Sublist ((c.setting category).changes category t.backend) ∧
        t'.backend = Change.applyAll p done t.backend := by
  rcases sweepCategory_carries hs hw with ⟨r, hcarried, hrun⟩ | ⟨hno, hended⟩
  · exact .inl ⟨_, _, hrun, hcarried.backend⟩
  · refine .inr ⟨fun hisolate hlists => ?_, hended⟩
    rw [hisolate] at hno
    cases (hno hlists).1

/-- Where failures are isolated and lists are answered, the cleanup of a category ends well. -/
theorem sweepCategory_isolated (hs : (c.setting category).OnStore p) (hw : t.backend.WellFormed)
    (hisolate : c.config.policies.of category = .isolate) (hlist : t.backend.listFailures = []) :
    ∃ report t', c.sweepCategory category t = (.ok report, t') ∧ t'.backend =
      Change.applyAll p ((c.setting category).changes category t.backend) t.backend := by
  obtain ⟨report, t', hrun⟩ := sweepCategory_calm hs hw hlist (.inl hisolate)
  exact ⟨report, t', hrun, (sweepCategory_of_ok hs hw hrun).1⟩

theorem sweepCategory_done (hs : (c.setting category).OnStore p) (hw : t.backend.WellFormed) :
    ∃ done, done.Sublist ((c.setting category).changes category t.backend) ∧
      (c.sweepCategory category t).2.backend = Change.applyAll p done t.backend := by
  rcases sweepCategory_cases hs hw with ⟨report, t', h, hb⟩ | ⟨-, e, t', done, h, hdone, hb⟩
  · exact ⟨_, .refl _, by rw [h, hb]⟩
  · exact ⟨done, hdone, by rw [h, hb]⟩

end Sweep

end NetSweep
