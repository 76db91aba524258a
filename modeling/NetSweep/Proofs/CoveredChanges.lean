import NetSweep.Proofs.CategoryChanges
import NetSweep.Proofs.Lockstep

/-!
# Changes that cover others

Of two runs from the same objects, one has the wider authority and is ahead of the other.  Whatever
a category asks for in the run behind, it asks for in the run ahead too, unless it is gone there.
-/

namespace NetSweep

open Cleanup Store

/-! ## Authorities -/

/-- The second authority knows all that the first does; none at all lets everything through. -/
def Knowledge.Within : Option Knowledge → Option Knowledge → Prop
  | _, none => True
  | none, some _ => False
  | some narrow, some wide => ∀ model id, narrow model id = true → wide model id = true

theorem Narrowing.finds_of_le {narrow wide : Knowledge}
    (h : ∀ model id, narrow model id = true → wide model id = true) {r : Resource}
    {rule : Narrowing} (hr : rule.finds narrow r = true) : rule.finds wide r = true := by
  cases rule with
  | id model => exact h _ _ hr
  | idStart model length =>
    unfold finds at hr ⊢
    dsimp only at hr ⊢
    split at hr
    · exact h _ _ hr
    · cases hr
  | attachmentId model =>
    unfold finds at hr ⊢
    dsimp only at hr ⊢
    split at hr
    · exact h _ _ hr
    · cases hr

theorem Knowledge.Within.withinAuthority {narrow wide : Option Knowledge}
    (h : Within narrow wide) {rules : List Narrowing} {r : Resource}
    (hr : NetSweep.withinAuthority narrow rules r = true) :
    NetSweep.withinAuthority wide rules r = true := by
  rcases wide with _ | wide
  · rfl
  rcases narrow with _ | narrow
  · exact h.elim
  rcases Bool.or_eq_true_iff.1 hr with hr | hr
  · exact Bool.or_eq_true_iff.2 (.inl hr)
  · obtain ⟨rule, hmem, hfinds⟩ := List.any_eq_true.1 hr
    have hany := List.any_eq_true.2 ⟨rule, hmem, Narrowing.finds_of_le h hfinds⟩
    exact Bool.or_eq_true_iff.2 (.inr hany)

/-! ## What a category relies on -/

/-- The kinds of which a category reads fields that an update may have withdrawn. -/
def Category.intact : Category → List Kind
  | .securityGroups => [.communicationMap, .group]
  | .segmentInterfaces =>
    [.segment, .segmentDhcpStaticBinding, .tier1, .tier1LocaleService, .tier1SegmentInterface]
  | .segments => [.segmentPort, .logicalPort] ++ Kind.portBindings
  | .qosPolicies => [.qosProfile]
  | .loadBalancers => [.lbService] ++ Plan.firewallKinds ++ Setting.loadBalancerKinds
  | .dhcp => [.logicalPort, .dhcpServer]
  | .tier1Routers => [.tier1] ++ Plan.firewallKinds ++ Setting.routerParts

/-- The kinds whose objects have a category change others that lie elsewhere. -/
def Category.heads : Category → List Kind
  | .segmentInterfaces => [.segment, .tier1]
  | .segments => [.segment]
  | .loadBalancers => [.lbService]
  | .tier1Routers => [.tier1]
  | _ => []

/-! ## Changes that cover others -/

namespace Store

variable {altered : List Kind} {a b : Store} {cs cs' ds ds' : List Change}

/-- Of the first changes, those of what the store still has are all among the second, in order. -/
def Covered (b : Store) (cs cs' : List Change) : Prop :=
  (cs.filter fun c => (b.find? c.target).isSome).Sublist cs'

namespace Covered

theorem refl (cs : List Change) : Covered b cs cs := List.filter_sublist

theorem append (h : Covered b cs cs') (h' : Covered b ds ds') :
    Covered b (cs ++ ds) (cs' ++ ds') := by
  rw [Covered, List.filter_append]
  exact List.Sublist.append h h'

theorem trans_sublist (h : Covered b cs cs') (h' : cs'.Sublist ds) : Covered b cs ds :=
  List.Sublist.trans h h'

theorem of_gone (h : ∀ c ∈ cs, b.find? c.target = none) : Covered b cs [] := by
  rw [Covered, List.filter_eq_nil_iff.2 fun c hc => by simp [h c hc]]

theorem each {α : Type} {l : List α} {g g' : α → List Change}
    (h : ∀ x ∈ l, Covered b (g x) (g' x)) : Covered b (l.flatMap g) (l.flatMap g') := by
  induction l with
  | nil => exact .refl []
  | cons x l ih =>
    exact (h x List.mem_cons_self).append (ih fun x hx => h x (List.mem_cons_of_mem _ hx))

/-- Changes for each picked object.  What is asked for an object that is gone must be gone, and an
object that is left must be picked again. -/
theorem listed (h : Thinned altered a b) {pick pick' : Address × Resource → Bool}
    {g g' : Resource → List Change}
    (hgone : ∀ o ∈ a.objects, pick o = true → b.find? o.1 = none →
      ∀ c ∈ g o.2, b.find? c.target = none)
    (hleft : ∀ o ∈ a.objects, pick o = true → ∀ r, b.find? o.1 = some r →
      pick' (o.1, r) = true ∧ Covered b (g o.2) (g' r)) :
    Covered b (((a.objects.filter pick).map Prod.snd).flatMap g)
      (((b.objects.filter pick').map Prod.snd).flatMap g') := by
  have general : ∀ l ⊆ a.objects, Covered b (((l.filter pick).map Prod.snd).flatMap g)
      ((((l.filterMap fun o => (b.find? o.1).map (o.1, ·)).filter pick').map Prod.snd).flatMap
        g') := by
    intro l hl
    -- on the first store's objects, of which the second's are those that are left
    induction l with
    | nil => exact .refl []
    | cons o l ih =>
      have hl' := ih fun x hx => hl (List.mem_cons_of_mem _ hx)
      have ho := hl List.mem_cons_self
      cases hr : b.find? o.1 with
      | none =>
        cases hpick : pick o with
        | false => simpa [hpick, hr] using hl'
        | true =>
          simpa [hpick, hr] using (of_gone (hgone o ho hpick hr)).append hl'
      | some r =>
        cases hpick : pick o with
        | false =>
          cases hpick' : pick' (o.1, r) with
          | false => simpa [hpick, hpick', hr] using hl'
          | true =>
            simpa [hpick, hpick', hr] using hl'.trans_sublist (List.sublist_append_right (g' r) _)
        | true =>
          obtain ⟨hpick', hg⟩ := hleft o ho hpick r hr
          simpa [hpick, hpick', hr] using hg.append hl'
  have hall := general a.objects (List.Subset.refl _)
  rwa [← h.objects] at hall

end Covered

end Store

/-! ## What the categories ask for -/

namespace Cleanup.Setting

def under {σ : Type} (s : Setting σ) (authority : Option Knowledge) : Setting σ :=
  { s with authority }

variable {s : Setting Store} {p : Bool} {a b : Store} {altered : List Kind}
  {wide : Option Knowledge}

theorem OnStore.under (hs : s.OnStore p) (authority : Option Knowledge) :
    (s.under authority).OnStore p := ⟨hs.backend, hs.wet⟩

theorem owns_under (h : Knowledge.Within s.authority wide) {rules : List Narrowing} {r : Resource}
    (hr : s.owns rules r = true) : (s.under wide).owns rules r = true := by
  obtain ⟨hmarker, hauthority⟩ := Bool.and_eq_true_iff.1 hr
  exact Bool.and_eq_true_iff.2 ⟨hmarker, h.withinAuthority hauthority⟩

theorem owns_id_of_trim {r r' : Resource} (h : r.TrimOf r') {model : Authority.Model} :
    s.owns [.id model] r = s.owns [.id model] r' := by
  simp only [owns, h.hasTag, NetSweep.withinAuthority, List.any_cons, List.any_nil, Narrowing.finds,
    h.id]

section

variable (h : Remains altered s.config.domain a b) (ha : a.WellFormed)

include h ha

theorem trimOf_left {o : Address × Resource} (ho : o ∈ a.objects) {r : Resource}
    (hr : b.find? o.1 = some r) : r.TrimOf o.2 := by
  obtain ⟨r₀, hr₀, htrim, -⟩ := h.thinned.found hr
  rwa [Option.some.inj ((ha.mem_iff.1 ho).symm.trans hr₀)]

theorem eq_left {o : Address × Resource} (ho : o ∈ a.objects) (hkind : o.1.kind ∉ altered)
    {r : Resource} (hr : b.find? o.1 = some r) : r = o.2 := by
  obtain ⟨r₀, hr₀, -, hsame⟩ := h.thinned.found hr
  exact (hsame hkind).trans (Option.some.inj ((ha.mem_iff.1 ho).symm.trans hr₀)).symm

/-- Changes for each listed object of a kind that is not altered. -/
theorem covered_listed {pick pick' : Address × Resource → Bool} {g g' : Resource → List Change}
    (hkind : ∀ o, pick o = true → o.1.kind ∉ altered ∧ pick' o = true)
    (hgone : ∀ o ∈ a.objects, pick o = true → b.find? o.1 = none →
      ∀ c ∈ g o.2, b.find? c.target = none)
    (hleft : ∀ r, Covered b (g r) (g' r)) :
    Covered b (((a.objects.filter pick).map Prod.snd).flatMap g)
      (((b.objects.filter pick').map Prod.snd).flatMap g') := by
  refine .listed h.thinned hgone fun o ho hpick r hr => ?_
  obtain rfl := eq_left h ha ho (hkind o hpick).1 hr
  exact ⟨(hkind o hpick).2, hleft o.2⟩

/-- Deletes of listed objects of a kind that is not altered. -/
theorem covered_deletes {role : Role} {kind : Kind} {parents : List String}
    {pick pick' : Address × Resource → Bool}
    (hkind : ∀ o, pick o = true → o.1.kind ∉ altered ∧ pick' o = true)
    (hgone : ∀ o ∈ a.objects, pick o = true → b.find? o.1 = none →
      b.find? { kind, parents, id := o.2.id } = none) :
    Covered b (deletes role kind parents ((a.objects.filter pick).map Prod.snd))
      (deletes role kind parents ((b.objects.filter pick').map Prod.snd)) := by
  rw [deletes_eq_flatMap, deletes_eq_flatMap]
  refine covered_listed h ha hkind (fun o ho hpick hnone c hc => ?_) fun r => .refl _
  obtain rfl := List.mem_singleton.1 hc
  exact hgone o ho hpick hnone

end

section

variable (hs : s.OnStore p) (h : Remains altered s.config.domain a b) (ha : a.WellFormed)

include hs h ha

/-- Changes for each object that is listed, of a kind that is not altered. -/
theorem covered_seen {kind : Kind} {parents : List String}
    (haccess : requireAccess p kind parents = .ok ()) (hkind : kind ∉ altered)
    {g g' : Resource → List Change}
    (hgone : ∀ o ∈ a.objects, o.1 = { kind, parents, id := o.2.id } → b.find? o.1 = none →
      ∀ c ∈ g o.2, b.find? c.target = none)
    (hleft : ∀ r, Covered b (g r) (g' r)) :
    Covered b ((s.seen kind parents a).flatMap g) ((s.seen kind parents b).flatMap g') := by
  rw [hs.seen_eq haccess, hs.seen_eq haccess, h.listFailures]
  exact covered_listed h ha (fun o hpick => ⟨kind_of_inList hpick ▸ hkind, hpick⟩)
    (fun o ho hpick => hgone o ho (ha.address_of_inList ho hpick)) hleft

/-- Changes for each owned object that is listed, of a kind that is not altered. -/
theorem covered_seenOwned (hwide : Knowledge.Within s.authority wide) {kind : Kind}
    {parents : List String} {rules : List Narrowing}
    (haccess : requireAccess p kind parents = .ok ()) (hkind : kind ∉ altered)
    {g g' : Resource → List Change}
    (hgone : ∀ o ∈ a.objects, o.1 = { kind, parents, id := o.2.id } → b.find? o.1 = none →
      ∀ c ∈ g o.2, b.find? c.target = none)
    (hleft : ∀ r, Covered b (g r) (g' r)) :
    Covered b ((s.seenOwned kind parents rules a).flatMap g)
      (((s.under wide).seenOwned kind parents rules b).flatMap g') := by
  rw [hs.seenOwned_eq haccess, (hs.under wide).seenOwned_eq haccess, h.listFailures]
  refine covered_listed h ha (fun o hpick => ?_) (fun o ho hpick => ?_) hleft
  · obtain ⟨hlist, howns⟩ := Bool.and_eq_true_iff.1 hpick
    exact ⟨kind_of_inList hlist ▸ hkind,
      Bool.and_eq_true_iff.2 ⟨hlist, owns_under hwide howns⟩⟩
  · exact hgone o ho (ha.address_of_inList ho (Bool.and_eq_true_iff.1 hpick).1)

theorem covered_deletes_seen {role : Role} {kind : Kind} {parents : List String}
    (haccess : requireAccess p kind parents = .ok ()) (hkind : kind ∉ altered) :
    Covered b (deletes role kind parents (s.seen kind parents a))
      (deletes role kind parents (s.seen kind parents b)) := by
  rw [deletes_eq_flatMap, deletes_eq_flatMap]
  refine covered_seen hs h ha haccess hkind (fun o _ haddr hnone c hc => ?_) fun r => .refl _
  obtain rfl := List.mem_singleton.1 hc
  rwa [haddr] at hnone

theorem covered_clearing (hwide : Knowledge.Within s.authority wide) {kind : Kind}
    {parents : List String} {rules : List Narrowing}
    (haccess : requireAccess p kind parents = .ok ()) (hkind : kind ∉ altered) :
    Covered b (s.clearing kind parents rules a) ((s.under wide).clearing kind parents rules b) := by
  rw [clearing, clearing, deletes_eq_flatMap, deletes_eq_flatMap]
  refine covered_seenOwned hs h ha hwide haccess hkind (fun o _ haddr hnone c hc => ?_)
    fun r => .refl _
  obtain rfl := List.mem_singleton.1 hc
  rwa [haddr] at hnone

theorem covered_firewallRemoval (tag : TagPredicate)
    (haltered : ∀ kind ∈ Plan.firewallKinds, kind ∉ altered) :
    Covered b (s.firewallRemoval a tag) (s.firewallRemoval b tag) := by
  refine .each fun kind hkind => ?_
  have haccess : requireApi p kind = .ok () := by
    simp [requireApi, (Kind.firewallKinds_spec kind hkind).1]
  rw [hs.sought_eq haccess, hs.sought_eq haccess, h.listFailures]
  exact covered_deletes h ha
    (fun o hpick => ⟨kind_of_inSearch hpick ▸ haltered kind hkind, hpick⟩)
    fun o ho hpick hnone => gone_firewall h ha hkind ho (kind_of_inSearch hpick) hnone

theorem covered_detaching (segment : Resource) (haltered : .segmentDhcpStaticBinding ∉ altered) :
    Covered b (s.detaching a segment) (s.detaching b segment) :=
  (covered_deletes_seen hs h ha (requireAccess_of_policy rfl rfl) haltered).append (.refl _)

theorem covered_unplugging (router : String) (hservice : .tier1LocaleService ∉ altered)
    (hinterface : .tier1SegmentInterface ∉ altered) :
    Covered b (s.unplugging a router) (s.unplugging b router) := by
  refine covered_seen hs h ha (requireAccess_of_policy rfl rfl) hservice
    (fun o ho haddr hnone c hc => gone_deletes h ha ho haddr hnone hc rfl) fun service => ?_
  exact covered_deletes_seen hs h ha (requireAccess_of_policy rfl rfl) hinterface

theorem covered_portRemoval (segment port : String)
    (haltered : ∀ kind ∈ Kind.portBindings, kind ∉ altered) :
    Covered b (s.portRemoval a segment port) (s.portRemoval b segment port) := by
  refine .append (.each fun kind hkind => ?_) (.refl _)
  obtain ⟨hapi, hcount, -⟩ := Kind.portBindings_spec kind hkind
  have haccess : requireAccess p kind [segment, port] = .ok () :=
    requireAccess_of_policy hapi hcount.symm
  exact covered_deletes_seen hs h ha haccess (haltered kind hkind)

theorem covered_dhcpPortRemoval (hp : p = true) (segment : String)
    (haltered : .logicalPort ∉ altered) :
    Covered b (s.dhcpPortRemoval a segment) (s.dhcpPortRemoval b segment) := by
  have haccess : requireApi p .logicalPort = .ok () := by simp [requireApi, hp]
  rw [dhcpPortRemoval, dhcpPortRemoval, hs.sought_eq haccess, hs.sought_eq haccess,
    h.listFailures, deletes_filter, deletes_filter]
  refine covered_listed h ha (fun o hpick => ⟨kind_of_inSearch hpick ▸ haltered, hpick⟩)
    (fun o ho hpick hnone c hc => ?_) fun r => .refl _
  split at hc
  · obtain rfl := List.mem_singleton.1 hc
    rwa [ha.address_of_inSearch ho hpick rfl] at hnone
  · cases hc

theorem covered_segmentRemoval (hwide : Knowledge.Within s.authority wide) (segment : String)
    (hport : .segmentPort ∉ altered) (hbindings : ∀ kind ∈ Kind.portBindings, kind ∉ altered)
    (hlogical : .logicalPort ∉ altered) :
    Covered b (s.segmentRemoval a segment) ((s.under wide).segmentRemoval b segment) := by
  have hports : Covered b
      ((s.seenOwned .segmentPort [segment] [.id .ports, .id .portMappings] a).flatMap
        fun port => s.portRemoval a segment port.id)
      (((s.under wide).seenOwned .segmentPort [segment] [.id .ports, .id .portMappings] b).flatMap
        fun port => s.portRemoval b segment port.id) :=
    covered_seenOwned hs h ha hwide (requireAccess_of_policy rfl rfl) hport
      (fun o ho haddr hnone _ hc => OnStore.gone_portRemoval ha h ho haddr hnone hc)
      fun port => covered_portRemoval hs h ha segment port.id hbindings
  refine hports.append (.append ?_ (.refl _))
  rw [show (s.under wide).backend = s.backend from rfl]
  split
  · rename_i hpass
    exact covered_dhcpPortRemoval hs h ha (hs.allowsPassthrough.symm.trans hpass) segment hlogical
  · exact .refl []

theorem covered_routerRemoval (router : String)
    (hfirewall : ∀ kind ∈ Plan.firewallKinds, kind ∉ altered)
    (hparts : ∀ kind ∈ routerParts, kind ∉ altered) :
    Covered b (s.routerRemoval a router) (s.routerRemoval b router) := by
  refine .append (.refl [_]) (.append (covered_firewallRemoval hs h ha _ hfirewall)
    (.append (.each fun kind hkind => ?_) (.refl _)))
  obtain ⟨hapi, hcount, -⟩ := routerParts_spec kind hkind
  exact covered_deletes_seen hs h ha (requireAccess_of_policy hapi hcount.symm) (hparts kind hkind)

omit hs in
theorem covered_servicePortRemovals (hs : s.OnStore true)
    (hwide : Knowledge.Within s.authority wide) {rules : List Narrowing}
    (haltered : .logicalPort ∉ altered) :
    Covered b ((s.seenOwned .logicalPort [] rules a).flatMap servicePortRemoval)
      (((s.under wide).seenOwned .logicalPort [] rules b).flatMap servicePortRemoval) := by
  refine covered_seenOwned hs h ha hwide (requireAccess_of_passthrough rfl) haltered
    (fun o _ haddr hnone c hc => ?_) fun r => .refl _
  rw [haddr] at hnone
  unfold servicePortRemoval at hc
  split at hc
  · rcases List.mem_cons.1 hc with rfl | hc
    · exact hnone
    · obtain rfl := List.mem_singleton.1 hc
      exact hnone
  · cases hc

/-- Changes for each owned object of a kind of which nothing is gone. -/
theorem covered_heads {kind : Kind} {rules : List Narrowing}
    (haccess : requireAccess p kind [] = .ok ())
    (hlevel : ∀ k : Address, k.kind = kind → a.find? k ≠ none → b.find? k ≠ none)
    (howns : ∀ o ∈ a.objects, o.1.kind = kind → s.owns rules o.2 = true → ∀ r,
      b.find? o.1 = some r → (s.under wide).owns rules r = true)
    {g g' : Resource → List Change}
    (hg : ∀ o ∈ a.objects, o.1.kind = kind → ∀ r, b.find? o.1 = some r →
      Covered b (g o.2) (g' r)) :
    Covered b ((s.seenOwned kind [] rules a).flatMap g)
      (((s.under wide).seenOwned kind [] rules b).flatMap g') := by
  rw [hs.seenOwned_eq haccess, (hs.under wide).seenOwned_eq haccess, h.listFailures]
  refine .listed h.thinned (fun o ho hpick hnone => ?_) fun o ho hpick r hr => ?_
  · have hkind := kind_of_inList (Bool.and_eq_true_iff.1 hpick).1
    exact absurd hnone (hlevel o.1 hkind (by simp [ha.mem_iff.1 ho]))
  · obtain ⟨hlist, hown⟩ := Bool.and_eq_true_iff.1 hpick
    have hkind := kind_of_inList hlist
    exact ⟨Bool.and_eq_true_iff.2 ⟨hlist, howns o ho hkind hown r hr⟩, hg o ho hkind r hr⟩

/-- Changes for each owned object of a kind that is neither altered nor gone. -/
theorem covered_intact_heads (hwide : Knowledge.Within s.authority wide) {kind : Kind}
    {rules : List Narrowing} (haccess : requireAccess p kind [] = .ok ()) (hkind : kind ∉ altered)
    (hlevel : ∀ k : Address, k.kind = kind → a.find? k ≠ none → b.find? k ≠ none)
    {g g' : Resource → List Change} (hg : ∀ r, Covered b (g r) (g' r)) :
    Covered b ((s.seenOwned kind [] rules a).flatMap g)
      (((s.under wide).seenOwned kind [] rules b).flatMap g') := by
  refine covered_seenOwned hs h ha hwide haccess hkind (fun o ho haddr hnone => ?_) hg
  exact absurd hnone (hlevel o.1 (by rw [haddr]) (by simp [ha.mem_iff.1 ho]))

/-- The run that is ahead asks for all that the other asks for and that still concerns it. -/
theorem covered_changes (hwide : Knowledge.Within s.authority wide) (category : Category)
    (hintact : ∀ kind ∈ category.intact, kind ∉ altered)
    (hlevel : ∀ kind ∈ category.heads, ∀ k : Address, k.kind = kind →
      a.find? k ≠ none → b.find? k ≠ none) :
    Covered b (s.changes category a) ((s.under wide).changes category b) := by
  cases category with
  | securityGroups =>
    exact (covered_clearing hs h ha hwide (requireAccess_of_policy rfl rfl)
      (hintact _ (by decide))).append
        (covered_clearing hs h ha hwide (requireAccess_of_policy rfl rfl) (hintact _ (by decide)))
  | segmentInterfaces =>
    refine .append (covered_intact_heads hs h ha hwide (requireAccess_of_policy rfl rfl)
      (hintact _ (by decide)) (hlevel _ (by decide)) fun r => ?_)
        (covered_intact_heads hs h ha hwide (requireAccess_of_policy rfl rfl)
          (hintact _ (by decide)) (hlevel _ (by decide)) fun r => ?_)
    · exact covered_detaching hs h ha r (hintact _ (by decide))
    · exact covered_unplugging hs h ha r.id (hintact _ (by decide)) (hintact _ (by decide))
  | segments =>
    refine covered_heads hs h ha (requireAccess_of_policy rfl rfl) (hlevel _ (by decide))
      (fun o ho _ hown r hr => ?_) fun o ho _ r hr => ?_
    · exact owns_under hwide ((owns_id_of_trim (trimOf_left h ha ho hr)).trans hown)
    · rw [(trimOf_left h ha ho hr).id]
      exact covered_segmentRemoval hs h ha hwide o.2.id (hintact _ (by decide))
        (fun kind hkind => hintact kind (List.mem_append_right _ hkind)) (hintact _ (by decide))
  | qosPolicies =>
    exact covered_clearing hs h ha hwide (requireAccess_of_policy rfl rfl) (hintact _ (by decide))
  | loadBalancers =>
    refine .append (covered_intact_heads hs h ha hwide (requireAccess_of_policy rfl rfl)
      (hintact _ (by decide)) (hlevel _ (by decide)) fun r => ?_) (.each fun kind hkind => ?_)
    · exact covered_firewallRemoval hs h ha (serviceTag r) fun kind hkind => hintact kind
        (List.mem_append_left _ (List.mem_append_right _ hkind))
    · obtain ⟨hapi, hcount⟩ := loadBalancerKinds_spec kind hkind
      exact covered_clearing hs h ha hwide (requireAccess_of_policy hapi (by simp [hcount]))
        (hintact kind (List.mem_append_right _ hkind))
  | dhcp =>
    rw [changes, changes, show (s.under wide).backend = s.backend from rfl]
    split
    · rename_i hpass
      obtain rfl : p = true := hs.allowsPassthrough.symm.trans hpass
      exact (covered_servicePortRemovals h ha hs hwide (hintact _ (by decide))).append
        (covered_clearing hs h ha hwide (requireAccess_of_passthrough rfl) (hintact _ (by decide)))
    · exact .refl []
  | tier1Routers =>
    refine covered_intact_heads hs h ha hwide (requireAccess_of_policy rfl rfl)
      (hintact _ (by decide)) (hlevel _ (by decide)) fun r => ?_
    exact covered_routerRemoval hs h ha r.id
      (fun kind hkind => hintact kind (List.mem_append_left _ (List.mem_append_right _ hkind)))
      fun kind hkind => hintact kind (List.mem_append_right _ hkind)

end

end Cleanup.Setting

end NetSweep
