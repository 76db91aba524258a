import NetSweep.Proofs.SettledTasks

/-!
# Every category is settled

What a category lists on the way to the objects that it answers for, none of its own changes
touches before.  So how it ends and what it hands over depends on the objects that it starts from
and on nothing else.
-/

namespace NetSweep

open Cleanup Store

/-! ## What changes hand over -/

namespace Cleanup

def addresses (kind : Kind) (parents : List String) (found : List Resource) : List Address :=
  found.map fun r => { kind, parents, id := r.id }

variable {role : Role} {kind : Kind} {parents : List String} {found : List Resource}

theorem handed_deletes_owned : (deletes .owned kind parents found).filterMap Change.handed? =
    addresses kind parents found := by
  induction found with
  | nil => rfl
  | cons r found ih => exact congrArg (_ :: ·) ih

theorem handed_deletes_other (hrole : role ≠ .owned) :
    (deletes role kind parents found).filterMap Change.handed? = [] := by
  refine List.filterMap_eq_nil_iff.2 fun c hc => ?_
  obtain ⟨r, -, rfl⟩ := List.mem_map.1 hc
  cases role with
  | owned => exact absurd rfl hrole
  | auxiliary => rfl
  | shared => rfl

theorem handed_of_parts {α : Type} (l : List α) {g : α → List Change}
    (h : ∀ a, (g a).filterMap Change.handed? = []) :
    (l.flatMap g).filterMap Change.handed? = [] := by
  rw [List.filterMap_flatMap]
  exact List.flatMap_eq_nil_iff.2 fun a _ => h a

namespace Setting

variable {σ : Type} (s : Setting σ) (b : σ)

theorem handed_emptying : (s.emptying kind parents b).filterMap Change.handed? = [] :=
  handed_deletes_other nofun

theorem handed_firewallRemoval (tag : TagPredicate) :
    (s.firewallRemoval b tag).filterMap Change.handed? = [] :=
  handed_of_parts Plan.firewallKinds fun _ => handed_deletes_other nofun

theorem handed_dhcpPortRemoval (segment : String) :
    (s.dhcpPortRemoval b segment).filterMap Change.handed? = [] := handed_deletes_other nofun

end Setting

end Cleanup

namespace Cleanup.Setting

variable {s₀ s : Setting Store} {p : Bool} {base b : Store} {reads keeps : Address → Prop}

/-! ## Listed objects are distinct -/

theorem OnStore.nodup_addresses (hs : s.OnStore p) (hw : base.WellFormed) {kind : Kind}
    {parents : List String} (haccess : requireAccess p kind parents = .ok ()) :
    (addresses kind parents (s.seen kind parents base)).Nodup := by
  rw [addresses, hs.seen_eq haccess, List.map_map]
  have hkeys : (base.objects.filter (inList base.listFailures kind parents)).map
      ((fun r => ({ kind, parents, id := r.id } : Address)) ∘ Prod.snd) =
        Assoc.keys (base.objects.filter (inList base.listFailures kind parents)) := by
    refine List.map_congr_left fun o ho => ?_
    obtain ⟨ho, hpick⟩ := List.mem_filter.1 ho
    exact (hw.address_of_inList ho hpick).symm
  rw [hkeys]
  exact (hw.sorted.sublist List.filter_sublist).nodup

theorem OnStore.nodup_ids (hs : s.OnStore p) (hw : base.WellFormed) {kind : Kind}
    {parents : List String} (haccess : requireAccess p kind parents = .ok ()) :
    ((s.seen kind parents base).map Resource.id).Nodup := by
  have hids : addresses kind parents (s.seen kind parents base) =
      ((s.seen kind parents base).map Resource.id).map fun id => { kind, parents, id } := by
    rw [List.map_map]
    rfl
  have haddresses := hs.nodup_addresses hw haccess
  rw [hids] at haddresses
  exact .of_map _ haddresses

/-! ## Quiet parts -/

theorem settled_deleteContained {kind : Kind} {parents : List String}
    (hplace : kind.parent?.isSome = true) (hkeeps : ∀ k, keeps k → k.kind ≠ kind) :
    Settled p s₀ base reads keeps (fun s => s.deleteContained kind parents)
      (s₀.emptying kind parents base) := by
  refine .quietly (.of_any_list fun s => s.listOrNone_reads hplace) (fun s hs found => ?_)
    (s₀.handed_emptying base)
  exact .each fun r _ => hs.quiet_deleteAuxiliary.mono fun k hk => ne_of_kind (hkeeps k hk)

theorem settled_sweepFirewall (tag : TagPredicate)
    (hkeeps : ∀ k, keeps k → k.kind ∉ Plan.firewallKinds) :
    Settled p s₀ base reads keeps (fun s => s.sweepFirewall tag) (s₀.firewallRemoval base tag) := by
  have hpolicy : ∀ kind ∈ Plan.firewallKinds, kind ≠ .logicalPort := by decide
  have hkinds : ∀ kind ∈ Plan.firewallKinds, Settled p s₀ base (fun _ => False) keeps
      (fun s => s.searchAll kind [tag] >>= fun found =>
        Task.each found fun r => s.deleteShared kind (s.domainParents kind) r.id)
      (deletes .shared kind (s₀.domainParents kind) (s₀.sought kind [tag] base)) := by
    intro kind hkind
    refine .quietly (.of_any_search fun s _ => s.searchAll_reads (hpolicy kind hkind))
      (fun s hs found => ?_) (handed_deletes_other nofun)
    refine .each fun r _ => hs.quiet_deleteShared.mono fun k hk => ne_of_kind ?_
    rintro rfl
    exact hkeeps k hk hkind
  exact (Settled.each_blind hkinds).congr fun s _ => s.sweepFirewall_eq tag

theorem settled_deleteDhcpPorts (segment : Resource)
    (hkeeps : ∀ k, keeps k → k.kind ≠ .logicalPort) :
    Settled p s₀ base reads keeps (fun s => s.deleteDhcpPorts segment)
      (s₀.dhcpPortRemoval base segment.id) := by
  refine .quietly (.of_any_search fun s hs => hs.marker ▸ s.findDhcpPorts_reads segment)
    (fun s hs found => ?_) (s₀.handed_dhcpPortRemoval base segment.id)
  exact .each fun port _ => .when fun _ =>
    hs.quiet_deleteAuxiliary.mono fun k hk => ne_of_kind (hkeeps k hk)

theorem settled_detachSegment (segment : Resource)
    (hkeeps : ∀ k, keeps k → k.kind ≠ .segmentDhcpStaticBinding ∧ k.kind ≠ .segment) :
    Settled p s₀ base reads keeps (fun s => s.detachSegment segment) (s₀.detaching base segment) := by
  have hbindings : Settled p s₀ base reads keeps
      (fun s => s.deleteContained .segmentDhcpStaticBinding [segment.id])
      (s₀.emptying .segmentDhcpStaticBinding [segment.id] base) :=
    settled_deleteContained rfl fun k hk => (hkeeps k hk).1
  have hupdate : Settled p s₀ base (fun _ => False) keeps
      (fun s => if (segment.field "connectivity_path").isSome
        then s.update .segment [] segment.id disconnection else pure ())
      (if (segment.field "connectivity_path").isSome then
        [.update { kind := .segment, parents := [], id := segment.id } disconnection] else []) := by
    refine .of_quiet (fun s hs => .when fun _ => ?_) (by split <;> rfl)
    exact (hs.quiet_update disconnection).mono fun k hk => ne_of_kind (hkeeps k hk).2
  exact hbindings.seq_blind hupdate

/-! ## Objects of one kind in one place -/

section

variable (hs₀ : s₀.OnStore p) (hw : base.WellFormed)

include hs₀ hw

theorem answered_findOwned {kind : Kind} {parents : List String} {rules : List Narrowing}
    (hplace : kind.parent? = none) :
    Answered p s₀ base (InPlace kind parents) (fun s => s.findOwned kind parents rules)
      (· = s₀.seenOwned kind parents rules base) :=
  (Answered.of_list hw.sorted hs₀.backend fun s => s.list_reads hplace).select kind rules

/-- Owned objects that are listed and deleted. -/
theorem settled_clearing {kind : Kind} {parents : List String} {rules : List Narrowing}
    (hplace : kind.parent? = none) :
    Settled p s₀ base (InPlace kind parents) (fun k => k.kind ≠ kind)
      (fun s => s.findOwned kind parents rules >>= fun found =>
        Task.each found fun r => s.deleteOwned kind parents r.id)
      (s₀.clearing kind parents rules base) := by
  have hdeletes : Settled p s₀ base (fun _ => False) (fun k => k.kind ≠ kind)
      (fun s => Task.each (s₀.seenOwned kind parents rules base) fun r =>
        s.deleteOwned kind parents r.id)
      (s₀.clearing kind parents rules base) := by
    rw [clearing, deletes_eq_flatMap]
    exact .each_blind fun r _ => Settled.deleteOwned.mono (fun _ => id) fun k hk => ne_of_kind hk
  exact .find_blind (answered_findOwned hs₀ hw hplace) hdeletes

/-! ## Segments -/

theorem settled_deleteInterfaces (router service : Resource) :
    Settled p s₀ base (InPlace .tier1SegmentInterface [router.id, service.id])
      (fun k => ¬InPlace .tier1SegmentInterface [router.id, service.id] k)
      (fun s => s.deleteInterfaces router service)
      (deletes .owned .tier1SegmentInterface [router.id, service.id]
        (s₀.seen .tier1SegmentInterface [router.id, service.id] base)) := by
  have hfound : Answered p s₀ base (InPlace .tier1SegmentInterface [router.id, service.id])
      (fun s => s.listOrNone .tier1SegmentInterface [router.id, service.id])
      (· = s₀.seen .tier1SegmentInterface [router.id, service.id] base) :=
    .of_list hw.sorted hs₀.backend fun s => s.listOrNone_reads rfl
  rw [deletes_eq_flatMap]
  refine .find_blind hfound (.each_blind fun i _ => Settled.deleteOwned.mono (fun _ => id) ?_)
  rintro _ hk rfl
  exact hk ⟨rfl, rfl⟩

/-- The places that are read on the way to a router's interfaces. -/
def ToInterfaces (router : String) (k : Address) : Prop :=
  InPlace .tier1LocaleService [router] k ∨
    k.kind = .tier1SegmentInterface ∧ k.parents.head? = some router

theorem settled_unplug (router : Resource) :
    Settled p s₀ base (ToInterfaces router.id)
      (fun k => k.kind = .tier1SegmentInterface → k.parents.head? ≠ some router.id)
      (fun s => s.listOrNone .tier1LocaleService [router.id] >>= fun services =>
        Task.each services (s.deleteInterfaces router))
      (s₀.unplugging base router.id) := by
  have hfound : Answered p s₀ base (ToInterfaces router.id)
      (fun s => s.listOrNone .tier1LocaleService [router.id])
      (· = s₀.seen .tier1LocaleService [router.id] base) :=
    (Answered.of_list hw.sorted hs₀.backend fun s => s.listOrNone_reads rfl).mono fun _ => .inl
  have hdistinct : (s₀.seen .tier1LocaleService [router.id] base).Pairwise fun a b =>
      ∀ k, InPlace .tier1SegmentInterface [router.id, b.id] k →
        ¬InPlace .tier1SegmentInterface [router.id, a.id] k := by
    have hids : ((s₀.seen .tier1LocaleService [router.id] base).map Resource.id).Nodup :=
      hs₀.nodup_ids hw (requireAccess_of_policy rfl rfl)
    refine (List.pairwise_map.1 hids).imp fun {a b} hne k hb ha => ?_
    have hsame := hb.2.symm.trans ha.2
    simp only [List.cons.injEq, and_true, true_and] at hsame
    exact hne hsame.symm
  have hservices := Settled.each (fun service _ => settled_deleteInterfaces hs₀ hw router service)
    hdistinct
  refine .find hfound (hservices.mono (fun _ => id) ?_) ?_
  · rintro k hk service - ⟨hkind, hparents⟩
    exact hk hkind (by rw [hparents]; rfl)
  · rintro k ⟨service, -, hkind, hparents⟩
    exact .inr ⟨hkind, by rw [hparents]; rfl⟩

theorem settled_unplugging :
    Settled p s₀ base
      (fun k => k.kind ∈ [Kind.tier1, .tier1LocaleService, .tier1SegmentInterface]) (fun _ => False)
      (fun s => s.findRouters >>= fun routers => Task.each routers fun router =>
        s.listOrNone .tier1LocaleService [router.id] >>= fun services =>
          Task.each services (s.deleteInterfaces router))
      ((s₀.seenOwned .tier1 [] [.id .routers] base).flatMap fun r => s₀.unplugging base r.id) := by
  -- deletes of one router's interfaces keep what is read for another router
  have hdistinct : (s₀.seenOwned .tier1 [] [.id .routers] base).Pairwise fun a b =>
      ∀ k, ToInterfaces b.id k →
        k.kind = .tier1SegmentInterface → k.parents.head? ≠ some a.id := by
    have hids : ((s₀.seen .tier1 [] base).map Resource.id).Nodup :=
      hs₀.nodup_ids hw (requireAccess_of_policy rfl rfl)
    have hseen : (s₀.seen .tier1 [] base).Pairwise fun a b => a.id ≠ b.id := List.pairwise_map.1 hids
    refine (hseen.sublist List.filter_sublist).imp fun {a b} hne k hk hkind hhead => ?_
    rcases hk with hk | ⟨-, hk⟩
    · cases hk.1.symm.trans hkind
    · exact hne (Option.some.inj (hhead.symm.trans hk))
  have hrouters := Settled.each (fun router _ => settled_unplug hs₀ hw router) hdistinct
  refine .find ((answered_findOwned hs₀ hw rfl).mono ?_) (hrouters.mono (fun _ => id) ?_) ?_
  · rintro k ⟨hkind, -⟩
    simp [hkind]
  · exact fun _ hk => hk.elim
  · rintro k ⟨router, -, ⟨hkind, -⟩ | ⟨hkind, -⟩⟩
    · simp [hkind]
    · simp [hkind]

theorem settled_segmentInterfaces :
    Settled p s₀ base (fun _ => True) (fun _ => False) (fun s => s.sweep .segmentInterfaces)
      (s₀.changes .segmentInterfaces base) := by
  have hsegments : Settled p s₀ base (fun _ => True)
      (fun k => k.kind ≠ .segmentDhcpStaticBinding ∧ k.kind ≠ .segment)
      (fun s => Task.each (s₀.seenOwned .segment [] [.id .networks] base) s.detachSegment)
      ((s₀.seenOwned .segment [] [.id .networks] base).flatMap (s₀.detaching base)) :=
    .each_blind fun segment _ => settled_detachSegment segment fun _ => id
  have happart : ∀ kind ∈ [Kind.tier1, .tier1LocaleService, .tier1SegmentInterface],
      kind ≠ .segmentDhcpStaticBinding ∧ kind ≠ .segment := by decide
  exact .find ((answered_findOwned hs₀ hw rfl).mono fun _ _ => trivial)
    (hsegments.seq (settled_unplugging hs₀ hw) (fun k hk => ⟨trivial, happart k.kind hk⟩)
      fun _ hk => hk.elim) fun _ => id

omit hs₀ hw in
theorem settled_deletePort (segment port : Resource) :
    Settled p s₀ base (fun _ => False)
      (fun k => ¬InPlace .segmentPort [segment.id] k ∧ k.kind ∉ Kind.portBindings)
      (fun s => s.deletePort segment port) (s₀.portRemoval base segment.id port.id) := by
  have hbindings : Settled p s₀ base (fun _ => False)
      (fun k => ¬InPlace .segmentPort [segment.id] k ∧ k.kind ∉ Kind.portBindings)
      (fun s => Task.each Kind.portBindings fun kind =>
        s.deleteContained kind [segment.id, port.id])
      (Kind.portBindings.flatMap fun kind => s₀.emptying kind [segment.id, port.id] base) := by
    refine .each_blind fun kind hkind => settled_deleteContained ?_ fun k hk hsame => ?_
    · rw [(Kind.portBindings_spec kind hkind).2.2.2]
      rfl
    · exact hk.2 (hsame ▸ hkind)
  refine hbindings.seq_blind (Settled.deleteOwned.mono (fun _ => id) ?_)
  rintro _ ⟨hk, -⟩ rfl
  exact hk ⟨rfl, rfl⟩

theorem settled_deleteSegment (segment : Resource) :
    Settled p s₀ base (InPlace .segmentPort [segment.id])
      (fun k => k.kind = .segmentPort ∧ k.parents ≠ [segment.id])
      (fun s => s.deleteSegment segment) (s₀.segmentRemoval base segment.id) := by
  have hfound : Answered p s₀ base (InPlace .segmentPort [segment.id])
      (fun s => s.findOwnedOrNone .segmentPort [segment.id] [.id .ports, .id .portMappings])
      (· = s₀.seenOwned .segmentPort [segment.id] [.id .ports, .id .portMappings] base) :=
    (Answered.of_list hw.sorted hs₀.backend fun s => s.listOrNone_reads rfl).select _ _
  have hports : Settled p s₀ base (InPlace .segmentPort [segment.id])
      (fun k => k.kind = .segmentPort ∧ k.parents ≠ [segment.id])
      (fun s => s.findOwnedOrNone .segmentPort [segment.id] [.id .ports, .id .portMappings] >>=
        fun ports => Task.each ports (s.deletePort segment))
      ((s₀.seenOwned .segmentPort [segment.id] [.id .ports, .id .portMappings] base).flatMap
        fun port => s₀.portRemoval base segment.id port.id) := by
    refine .find_blind hfound (.each_blind fun port _ =>
      (settled_deletePort segment port).mono (fun _ => id) ?_)
    rintro k ⟨hkind, hparents⟩
    refine ⟨fun hplace => hparents hplace.2, ?_⟩
    rw [hkind]
    decide
  have hpass : ∀ s : Setting Store, s₀.Alike p s →
      s.backend.allowsPassthrough = s₀.backend.allowsPassthrough := by
    intro s hs
    rw [hs.backend, hs₀.backend]
  have hdhcp : Settled p s₀ base (fun _ => False)
      (fun k => k.kind = .segmentPort ∧ k.parents ≠ [segment.id])
      (fun s => if s.backend.allowsPassthrough then s.deleteDhcpPorts segment else pure ())
      (if s₀.backend.allowsPassthrough then s₀.dhcpPortRemoval base segment.id else []) := by
    cases hallowed : s₀.backend.allowsPassthrough with
    | true =>
      refine (settled_deleteDhcpPorts segment ?_).congr fun s hs => ?_
      · rintro k ⟨hkind, -⟩
        rw [hkind]
        decide
      · rw [hpass s hs, hallowed]
        rfl
    | false =>
      refine Settled.nil.congr fun s hs => ?_
      rw [hpass s hs, hallowed]
      rfl
  have hself : Settled p s₀ base (fun _ => False)
      (fun k => k.kind = .segmentPort ∧ k.parents ≠ [segment.id])
      (fun s => s.deleteOwned .segment [] segment.id)
      [.delete .owned { kind := .segment, parents := [], id := segment.id }] := by
    refine Settled.deleteOwned.mono (fun _ => id) fun k hk => ne_of_kind ?_
    rw [hk.1]
    decide
  exact (hports.seq_blind (hdhcp.seq_blind hself)).congr fun s _ => deleteSegment_eq segment

theorem settled_segments :
    Settled p s₀ base (fun _ => True) (fun _ => False) (fun s => s.sweep .segments)
      (s₀.changes .segments base) := by
  -- all that is listed inside a segment is its ports, which lie apart from those of the others
  have hdistinct : (s₀.seenOwned .segment [] [.id .networks] base).Pairwise fun a b =>
      ∀ k, InPlace .segmentPort [b.id] k → k.kind = .segmentPort ∧ k.parents ≠ [a.id] := by
    have hids : ((s₀.seen .segment [] base).map Resource.id).Nodup :=
      hs₀.nodup_ids hw (requireAccess_of_policy rfl rfl)
    have hseen : (s₀.seen .segment [] base).Pairwise fun a b => a.id ≠ b.id :=
      List.pairwise_map.1 hids
    refine (hseen.sublist List.filter_sublist).imp fun {a b} hne k hk => ⟨hk.1, fun hparents => ?_⟩
    exact hne (List.cons.inj (hparents.symm.trans hk.2)).1
  have hsegments := Settled.each (fun segment _ => settled_deleteSegment hs₀ hw segment) hdistinct
  exact .find ((answered_findOwned hs₀ hw rfl).mono fun _ _ => trivial)
    (hsegments.mono (fun _ => id) fun _ hk => hk.elim) fun _ _ => trivial

/-! ## The other categories -/

theorem settled_clearDomain {kind : Kind} {rules : List Narrowing} (hplace : kind.parent? = none) :
    Settled p s₀ base (InPlace kind [s₀.config.domain]) (fun k => k.kind ≠ kind)
      (fun s => s.findOwned kind [s.config.domain] rules >>= fun found =>
        Task.each found fun r => s.deleteOwned kind [s.config.domain] r.id)
      (s₀.clearing kind [s₀.config.domain] rules base) := by
  refine (settled_clearing hs₀ hw hplace).congr fun s hs => ?_
  rw [hs.domain]

theorem settled_securityGroups :
    Settled p s₀ base (fun _ => True) (fun _ => False) (fun s => s.sweep .securityGroups)
      (s₀.changes .securityGroups base) := by
  have hpolicies : Settled p s₀ base (fun _ => True) (fun k => k.kind ≠ .communicationMap)
      (fun s => s.findOwned .communicationMap [s.config.domain] [.id .securityGroups] >>=
        fun found => Task.each found fun r => s.deleteOwned .communicationMap [s.config.domain] r.id)
      (s₀.clearing .communicationMap [s₀.config.domain] [.id .securityGroups] base) :=
    (settled_clearDomain hs₀ hw rfl).mono (fun _ _ => trivial) fun _ => id
  have hgroups : Settled p s₀ base (InPlace .group [s₀.config.domain]) (fun _ => False)
      (fun s => s.findOwned .group [s.config.domain]
          [.id .securityGroups, .idStart .securityGroupRules Narrowing.uuidLength] >>=
        fun found => Task.each found fun r => s.deleteOwned .group [s.config.domain] r.id)
      (s₀.clearing .group [s₀.config.domain]
        [.id .securityGroups, .idStart .securityGroupRules Narrowing.uuidLength] base) :=
    (settled_clearDomain hs₀ hw rfl).mono (fun _ => id) fun _ hk => hk.elim
  have happart : ∀ k, InPlace .group [s₀.config.domain] k → True ∧ k.kind ≠ .communicationMap :=
    fun k hk => ⟨trivial, hk.kind_ne (by decide)⟩
  exact (hpolicies.seq hgroups happart fun _ hk => hk.elim).congr fun s _ => sweepSecurityGroups_eq

theorem settled_qosPolicies :
    Settled p s₀ base (fun _ => True) (fun _ => False) (fun s => s.sweep .qosPolicies)
      (s₀.changes .qosPolicies base) :=
  (settled_clearing hs₀ hw rfl).mono (fun _ _ => trivial) fun _ hk => hk.elim

theorem settled_loadBalancers :
    Settled p s₀ base (fun _ => True) (fun _ => False) (fun s => s.sweep .loadBalancers)
      (s₀.changes .loadBalancers base) := by
  have hfirewall : Settled p s₀ base (fun _ => True) (fun k => k.kind ∉ Plan.firewallKinds)
      (fun s => Task.each (s₀.seenOwned .lbService [] [] base) s.sweepServiceFirewall)
      ((s₀.seenOwned .lbService [] [] base).flatMap fun r =>
        s₀.firewallRemoval base (serviceTag r)) :=
    .each_blind fun service _ => settled_sweepFirewall (serviceTag service) fun _ => id
  have hspec : ∀ kind ∈ loadBalancerKinds, kind.parent? = none ∧ kind ∉ Plan.firewallKinds := by
    decide
  have hkind : ∀ kind ∈ loadBalancerKinds, Settled p s₀ base (InPlace kind [])
      (fun k => k.kind ≠ kind)
      (fun s => s.findOwned kind [] [] >>= fun found =>
        Task.each found fun r => s.deleteOwned kind [] r.id)
      (s₀.clearing kind [] [] base) :=
    fun kind hmem => settled_clearing hs₀ hw (hspec kind hmem).1
  -- every kind is listed once, before any object of it is touched
  have hdistinct : loadBalancerKinds.Pairwise fun a b => ∀ k, InPlace b [] k → k.kind ≠ a := by
    have hnodup : loadBalancerKinds.Nodup := by decide
    exact hnodup.imp fun hne k hk hsame => hne (hsame.symm.trans hk.1)
  have hkinds : Settled p s₀ base (fun k => ∃ kind ∈ loadBalancerKinds, InPlace kind [] k)
      (fun _ => False)
      (fun s => Task.each loadBalancerKinds fun kind => s.findOwned kind [] [] >>= fun found =>
        Task.each found fun r => s.deleteOwned kind [] r.id)
      (loadBalancerKinds.flatMap fun kind => s₀.clearing kind [] [] base) :=
    (Settled.each hkind hdistinct).mono (fun _ => id) fun _ hk => hk.elim
  refine .find ((answered_findOwned hs₀ hw rfl).mono fun _ _ => trivial)
    (hfirewall.seq hkinds ?_ fun _ hk => hk.elim) fun _ => id
  rintro k ⟨kind, hmem, rfl, -⟩
  exact ⟨trivial, (hspec _ hmem).2⟩

omit hs₀ hw in
theorem settled_deleteServicePort (port : Resource) :
    Settled p s₀ base (fun _ => False) (fun k => k.kind ≠ .logicalPort)
      (fun s => s.deleteServicePort port) (servicePortRemoval port) := by
  have hupdate : Settled p s₀ base (fun _ => False) (fun k => k.kind ≠ .logicalPort)
      (fun s => s.update .logicalPort [] port.id detachment)
      [.update { kind := .logicalPort, parents := [], id := port.id } detachment] :=
    .of_quiet (fun s hs => (hs.quiet_update detachment).mono fun k hk => ne_of_kind hk) rfl
  have hdelete : Settled p s₀ base (fun _ => False) (fun k => k.kind ≠ .logicalPort)
      (fun s => s.deleteOwned .logicalPort [] port.id)
      [.delete .owned { kind := .logicalPort, parents := [], id := port.id }] :=
    Settled.deleteOwned.mono (fun _ => id) fun k hk => ne_of_kind hk
  simp only [Setting.deleteServicePort, servicePortRemoval]
  split
  · exact hupdate.seq_blind hdelete
  · exact .nil

theorem settled_dhcp :
    Settled p s₀ base (fun _ => True) (fun _ => False) (fun s => s.sweep .dhcp)
      (s₀.changes .dhcp base) := by
  have hpass : ∀ s : Setting Store, s₀.Alike p s → s.backend.allowsPassthrough = p := by
    intro s hs
    rw [hs.backend]
    rfl
  simp only [Setting.sweep, sweepDhcp, changes, hs₀.allowsPassthrough]
  cases p with
  | true =>
    rw [if_pos rfl]
    have hports : Settled true s₀ base (fun _ => True) (fun k => k.kind ≠ .logicalPort)
        (fun s => Task.each (s₀.seenOwned .logicalPort [] [.attachmentId .dhcpServiceBindings] base)
          s.deleteServicePort)
        ((s₀.seenOwned .logicalPort [] [.attachmentId .dhcpServiceBindings] base).flatMap
          servicePortRemoval) :=
      .each_blind fun port _ => settled_deleteServicePort port
    have hservers : Settled true s₀ base (InPlace .dhcpServer []) (fun _ => False)
        (fun s => s.findOwned .dhcpServer [] [.id .dhcpServiceBindings] >>= fun servers =>
          Task.each servers fun d => s.deleteOwned .dhcpServer [] d.id)
        (s₀.clearing .dhcpServer [] [.id .dhcpServiceBindings] base) :=
      (settled_clearing hs₀ hw rfl).mono (fun _ => id) fun _ hk => hk.elim
    have happart : ∀ k, InPlace .dhcpServer [] k → True ∧ k.kind ≠ .logicalPort :=
      fun k hk => ⟨trivial, hk.kind_ne (by decide)⟩
    have hboth : Settled true s₀ base (fun _ => True) (fun _ => False)
        (fun s => s.findOwned .logicalPort [] [.attachmentId .dhcpServiceBindings] >>= fun ports =>
          Task.each ports s.deleteServicePort >>= fun _ =>
            s.findOwned .dhcpServer [] [.id .dhcpServiceBindings] >>= fun servers =>
              Task.each servers fun d => s.deleteOwned .dhcpServer [] d.id)
        ((s₀.seenOwned .logicalPort [] [.attachmentId .dhcpServiceBindings] base).flatMap
            servicePortRemoval ++
          s₀.clearing .dhcpServer [] [.id .dhcpServiceBindings] base) :=
      .find ((answered_findOwned hs₀ hw rfl).mono fun _ _ => trivial)
        (hports.seq hservers happart fun _ hk => hk.elim) fun _ => id
    refine hboth.congr fun s hs => ?_
    rw [if_pos (hpass s hs)]
  | false =>
    refine .of_quiet (fun s hs r hr => ?_) rfl
    rw [if_neg (by simp [hpass s hs])]
    exact ⟨_, rfl, ⟨[], (List.append_nil _).symm, rfl⟩, .refl hr⟩

omit hs₀ hw in
theorem settled_deleteRouter (router : Resource) :
    Settled p s₀ base (fun _ => False) (fun _ => False) (fun s => s.deleteRouter router)
      (s₀.routerRemoval base router.id) := by
  -- what is found inside a router is deleted and handed to nobody, so nothing need be kept
  have hpolicy : Settled p s₀ base (fun _ => False) (fun _ => False)
      (fun s => s.deleteShared .gatewayPolicy [s.config.domain] router.id)
      [.delete .shared
        { kind := .gatewayPolicy, parents := [s₀.config.domain], id := router.id }] :=
    .of_quiet (fun s hs => hs.quiet_deleteShared.mono fun _ hk => hk.elim) rfl
  have hparts : Settled p s₀ base (fun _ => False) (fun _ => False)
      (fun s => Task.each routerParts fun kind => s.deleteContained kind [router.id])
      (routerParts.flatMap fun kind => s₀.emptying kind [router.id] base) := by
    refine .each_blind fun kind hkind => settled_deleteContained ?_ fun _ hk => hk.elim
    rw [(routerParts_spec kind hkind).2.2.2]
    rfl
  have hself : Settled p s₀ base (fun _ => False) (fun _ => False)
      (fun s => s.deleteOwned .tier1 [] router.id)
      [.delete .owned { kind := .tier1, parents := [], id := router.id }] :=
    Settled.deleteOwned.mono (fun _ => id) fun _ hk => hk.elim
  have hfirewall : Settled p s₀ base (fun _ => False) (fun _ => False)
      (fun s => s.sweepFirewall (.exact routerScope router.id))
      (s₀.firewallRemoval base (.exact routerScope router.id)) :=
    settled_sweepFirewall _ fun _ hk => hk.elim
  exact hpolicy.seq_blind (hfirewall.seq_blind (hparts.seq_blind hself))

/-- How a category ends and what it hands over depends on the objects that it starts from. -/
theorem settled_sweep (category : Category) :
    Settled p s₀ base (fun _ => True) (fun _ => False) (fun s => s.sweep category)
      (s₀.changes category base) := by
  cases category with
  | securityGroups => exact settled_securityGroups hs₀ hw
  | segmentInterfaces => exact settled_segmentInterfaces hs₀ hw
  | segments => exact settled_segments hs₀ hw
  | qosPolicies => exact settled_qosPolicies hs₀ hw
  | loadBalancers => exact settled_loadBalancers hs₀ hw
  | dhcp => exact settled_dhcp hs₀ hw
  | tier1Routers =>
    exact .find_blind ((answered_findOwned hs₀ hw rfl).mono fun _ _ => trivial)
      (.each_blind fun router _ => settled_deleteRouter router)

end

end Cleanup.Setting

end NetSweep
