import NetSweep.Proofs.CoveredChanges
import NetSweep.Proofs.SettledCategories

/-!
# Candidates

The candidates of a category are the objects that it hands over for deletion and answers for.  No
object is among them twice, and what is left of a store has no candidates that the store had not,
as long as the fields that a category reads are still there.
-/

namespace NetSweep

open Cleanup Store

/-- The kinds of which a category must find what is left untrimmed in order to have no new
candidates.  Segments and logical ports are not among them, because the fields that cleanup
withdraws from them make nothing a candidate. -/
def Category.steady : Category → List Kind
  | .securityGroups => [.communicationMap, .group]
  | .segmentInterfaces => [.tier1, .tier1LocaleService, .tier1SegmentInterface]
  | .segments => [.segmentPort]
  | .qosPolicies => [.qosProfile]
  | .loadBalancers => Setting.loadBalancerKinds
  | .dhcp => [.dhcpServer]
  | .tier1Routers => [.tier1]

theorem Category.steady_subset (category : Category) : category.steady ⊆ category.intact := by
  cases category <;> decide

namespace Resource

variable {r r₀ : Resource}

theorem TrimOf.field (h : r.TrimOf r₀) (hr₀ : r₀.Proper) {key : String} {v : Json}
    (hv : r.field key = some v) : r₀.field key = some v :=
  hr₀.sorted.find?_eq_some_iff.2 (h.extra.subset (Assoc.mem_of_find? hv))

/-- An object that still has its attachment has the one that it had before it was trimmed. -/
theorem TrimOf.attachmentField (h : r.TrimOf r₀) (hr₀ : r₀.Proper)
    (hattached : (r.field "attachment").isSome = true) (key : String) :
    r.attachmentField key = r₀.attachmentField key := by
  obtain ⟨v, hv⟩ := Option.isSome_iff_exists.1 hattached
  rw [Resource.attachmentField, Resource.attachmentField, hv, h.field hr₀ hv]

theorem attached_of_type {type : String} (h : r.attachmentType = some type) :
    (r.field "attachment").isSome = true := by
  cases hfield : r.field "attachment" with
  | some v => rfl
  | none => simp [attachmentType, attachmentField, hfield] at h

end Resource

namespace Cleanup.Setting

/-- The candidates of a category when everything it lists is read off one state. -/
def candidates {σ : Type} (s : Setting σ) : Category → σ → List Address
  | .securityGroups, b =>
    addresses .communicationMap [s.config.domain]
        (s.seenOwned .communicationMap [s.config.domain] [.id .securityGroups] b) ++
      addresses .group [s.config.domain] (s.seenOwned .group [s.config.domain]
        [.id .securityGroups, .idStart .securityGroupRules Narrowing.uuidLength] b)
  | .segmentInterfaces, b =>
    (s.seenOwned .tier1 [] [.id .routers] b).flatMap fun router =>
      (s.seen .tier1LocaleService [router.id] b).flatMap fun service =>
        addresses .tier1SegmentInterface [router.id, service.id]
          (s.seen .tier1SegmentInterface [router.id, service.id] b)
  | .segments, b =>
    (s.seenOwned .segment [] [.id .networks] b).flatMap fun segment =>
      addresses .segmentPort [segment.id]
          (s.seenOwned .segmentPort [segment.id] [.id .ports, .id .portMappings] b) ++
        [{ kind := .segment, parents := [], id := segment.id }]
  | .qosPolicies, b => addresses .qosProfile [] (s.seenOwned .qosProfile [] [.id .qosPolicies] b)
  | .loadBalancers, b =>
    loadBalancerKinds.flatMap fun kind => addresses kind [] (s.seenOwned kind [] [] b)
  | .dhcp, b =>
    if s.backend.allowsPassthrough then
      addresses .logicalPort []
          ((s.seenOwned .logicalPort [] [.attachmentId .dhcpServiceBindings] b).filter
            (·.attachmentType = some dhcpServiceType)) ++
        addresses .dhcpServer [] (s.seenOwned .dhcpServer [] [.id .dhcpServiceBindings] b)
    else []
  | .tier1Routers, b => addresses .tier1 [] (s.seenOwned .tier1 [] [.id .routers] b)

/-! ## What categories hand over -/

section

variable {σ : Type} (s : Setting σ) (b : σ)

theorem handed_emptyings (kinds : List Kind) (parents : List String) :
    (kinds.flatMap fun kind => s.emptying kind parents b).filterMap Change.handed? = [] :=
  handed_of_parts kinds fun _ => s.handed_emptying b

theorem handed_detaching (segment : Resource) :
    (s.detaching b segment).filterMap Change.handed? = [] := by
  rw [detaching, List.filterMap_append, handed_emptying]
  split <;> rfl

theorem handed_unplugging (router : String) :
    (s.unplugging b router).filterMap Change.handed? =
      (s.seen .tier1LocaleService [router] b).flatMap fun service =>
        addresses .tier1SegmentInterface [router, service.id]
          (s.seen .tier1SegmentInterface [router, service.id] b) := by
  simp only [unplugging, List.filterMap_flatMap, handed_deletes_owned]

theorem handed_segmentRemoval (segment : String) :
    (s.segmentRemoval b segment).filterMap Change.handed? =
      addresses .segmentPort [segment]
          (s.seenOwned .segmentPort [segment] [.id .ports, .id .portMappings] b) ++
        [{ kind := .segment, parents := [], id := segment }] := by
  have hport : ∀ port, (s.portRemoval b segment port).filterMap Change.handed? =
      [{ kind := .segmentPort, parents := [segment], id := port }] := by
    intro port
    rw [portRemoval, List.filterMap_append, handed_emptyings]
    rfl
  have hdhcp : (if s.backend.allowsPassthrough then s.dhcpPortRemoval b segment
      else []).filterMap Change.handed? = [] := by
    split
    · exact s.handed_dhcpPortRemoval b segment
    · rfl
  rw [segmentRemoval, List.filterMap_append, List.filterMap_append, List.filterMap_flatMap, hdhcp]
  simp only [hport]
  rw [addresses, List.map_eq_flatMap]
  rfl

theorem handed_servicePortRemovals (ports : List Resource) :
    (ports.flatMap servicePortRemoval).filterMap Change.handed? =
      addresses .logicalPort [] (ports.filter (·.attachmentType = some dhcpServiceType)) := by
  induction ports with
  | nil => rfl
  | cons port ports ih =>
    rw [List.flatMap_cons, List.filterMap_append, ih, servicePortRemoval, List.filter_cons]
    by_cases hport : port.attachmentType = some dhcpServiceType
    · simp only [hport, if_true, decide_true]
      rfl
    · simp [hport]

theorem handed_routerRemoval (router : String) :
    (s.routerRemoval b router).filterMap Change.handed? =
      [{ kind := .tier1, parents := [], id := router }] := by
  rw [routerRemoval, List.filterMap_cons, List.filterMap_append, List.filterMap_append,
    handed_firewallRemoval, handed_emptyings]
  rfl

theorem handed_changes (category : Category) :
    (s.changes category b).filterMap Change.handed? = s.candidates category b := by
  cases category with
  | securityGroups =>
    rw [changes, List.filterMap_append, clearing, clearing, handed_deletes_owned,
      handed_deletes_owned, candidates]
  | segmentInterfaces =>
    have hdetaching : ((s.seenOwned .segment [] [.id .networks] b).flatMap
        (s.detaching b)).filterMap Change.handed? = [] :=
      handed_of_parts _ fun segment => s.handed_detaching b segment
    rw [changes, List.filterMap_append, hdetaching, List.nil_append, List.filterMap_flatMap]
    simp only [handed_unplugging, candidates]
  | segments =>
    rw [changes, List.filterMap_flatMap]
    simp only [handed_segmentRemoval, candidates]
  | qosPolicies => rw [changes, clearing, handed_deletes_owned, candidates]
  | loadBalancers =>
    have hfirewall : ((s.seenOwned .lbService [] [] b).flatMap fun r =>
        s.firewallRemoval b (serviceTag r)).filterMap Change.handed? = [] :=
      handed_of_parts _ fun service => s.handed_firewallRemoval b (serviceTag service)
    rw [changes, List.filterMap_append, hfirewall, List.nil_append, List.filterMap_flatMap]
    simp only [clearing, handed_deletes_owned, candidates]
  | dhcp =>
    rw [changes, candidates]
    split
    · rw [List.filterMap_append, handed_servicePortRemovals, clearing, handed_deletes_owned]
    · rfl
  | tier1Routers =>
    rw [changes, List.filterMap_flatMap, candidates, addresses, List.map_eq_flatMap]
    simp only [handed_routerRemoval]

end

/-- The candidates of a category are what it deletes as owned. -/
theorem mem_candidates {σ : Type} {s : Setting σ} {b : σ} {category : Category} {k : Address} :
    k ∈ s.candidates category b ↔ .delete .owned k ∈ s.changes category b := by
  rw [← handed_changes, List.mem_filterMap]
  constructor
  · rintro ⟨change, hchange, hk⟩
    obtain rfl := Change.handed?_eq_some.1 hk
    exact hchange
  · exact fun h => ⟨_, h, rfl⟩

variable {s : Setting Store} {p : Bool} {a b : Store} {altered : List Kind} {kind : Kind}
  {parents : List String} {rules : List Narrowing}

/-! ## No candidate twice -/

def outermost (k : Address) : String := k.parents.headD k.id

def innermost (k : Address) : String := k.parents.getLastD k.id

/-- Lists of which an address tells to which one it belongs. -/
theorem nodup_flatMap {α β : Type} {l : List α} {f : α → List Address} (name : α → β)
    (owner : Address → β) (hparts : ∀ x ∈ l, (f x).Nodup)
    (howner : ∀ x ∈ l, ∀ k ∈ f x, owner k = name x) (hnames : (l.map name).Nodup) :
    (l.flatMap f).Nodup := by
  refine List.nodup_flatMap.2 ⟨hparts, ?_⟩
  refine (List.pairwise_map.1 hnames).imp_of_mem fun {x y} hx hy hne k hkx hky => ?_
  exact hne ((howner x hx k hkx).symm.trans (howner y hy k hky))

theorem place_of_mem_addresses {found : List Resource} {k : Address}
    (hk : k ∈ addresses kind parents found) : k.kind = kind ∧ k.parents = parents := by
  obtain ⟨r, -, rfl⟩ := List.mem_map.1 hk
  exact ⟨rfl, rfl⟩

namespace OnStore

variable (hs : s.OnStore p) (hw : b.WellFormed)

include hs hw

theorem nodup_seenOwned (haccess : requireAccess p kind parents = .ok ()) :
    (addresses kind parents (s.seenOwned kind parents rules b)).Nodup :=
  (hs.nodup_addresses hw haccess).sublist (List.filter_sublist.map _)

theorem nodup_ownedIds (haccess : requireAccess p kind parents = .ok ()) :
    ((s.seenOwned kind parents rules b).map Resource.id).Nodup :=
  (hs.nodup_ids hw haccess).sublist (List.filter_sublist.map _)

theorem nodup_candidates (category : Category) : (s.candidates category b).Nodup := by
  cases category with
  | securityGroups =>
    refine List.Nodup.append (hs.nodup_seenOwned hw (requireAccess_of_policy rfl rfl))
      (hs.nodup_seenOwned hw (requireAccess_of_policy rfl rfl)) fun k hk hk' => ?_
    cases (place_of_mem_addresses hk).1.symm.trans (place_of_mem_addresses hk').1
  | segmentInterfaces =>
    refine nodup_flatMap Resource.id outermost (fun router _ => ?_) (fun router _ k hk => ?_)
      (hs.nodup_ownedIds hw (requireAccess_of_policy rfl rfl))
    · refine nodup_flatMap Resource.id innermost
        (fun service _ => hs.nodup_addresses hw (requireAccess_of_policy rfl rfl))
        (fun service _ k hk => ?_) (hs.nodup_ids hw (requireAccess_of_policy rfl rfl))
      rw [innermost, (place_of_mem_addresses hk).2]
      rfl
    · obtain ⟨service, -, hk⟩ := List.mem_flatMap.1 hk
      rw [outermost, (place_of_mem_addresses hk).2]
      rfl
  | segments =>
    refine nodup_flatMap Resource.id outermost (fun segment _ => ?_) (fun segment _ k hk => ?_)
      (hs.nodup_ownedIds hw (requireAccess_of_policy rfl rfl))
    · refine List.Nodup.append (hs.nodup_seenOwned hw (requireAccess_of_policy rfl rfl))
        (List.nodup_singleton _) fun k hk hk' => ?_
      obtain rfl := List.mem_singleton.1 hk'
      cases (place_of_mem_addresses hk).1
    · rcases List.mem_append.1 hk with hk | hk
      · rw [outermost, (place_of_mem_addresses hk).2]
        rfl
      · obtain rfl := List.mem_singleton.1 hk
        rfl
  | qosPolicies => exact hs.nodup_seenOwned hw (requireAccess_of_policy rfl rfl)
  | loadBalancers =>
    refine nodup_flatMap id Address.kind (fun kind hkind => ?_)
      (fun kind _ k hk => (place_of_mem_addresses hk).1) (by decide)
    obtain ⟨hapi, hcount⟩ := loadBalancerKinds_spec kind hkind
    exact hs.nodup_seenOwned hw (requireAccess_of_policy hapi (by simp [hcount]))
  | dhcp =>
    rw [candidates]
    split
    · rename_i hpass
      obtain rfl : p = true := hs.allowsPassthrough.symm.trans hpass
      have hports : (addresses .logicalPort []
          (s.seenOwned .logicalPort [] [.attachmentId .dhcpServiceBindings] b)).Nodup :=
        hs.nodup_seenOwned hw (requireAccess_of_passthrough rfl)
      refine List.Nodup.append (hports.sublist (List.filter_sublist.map _))
        (hs.nodup_seenOwned hw (requireAccess_of_passthrough rfl)) fun k hk hk' => ?_
      cases (place_of_mem_addresses hk).1.symm.trans (place_of_mem_addresses hk').1
    · exact List.nodup_nil
  | tier1Routers => exact hs.nodup_seenOwned hw (requireAccess_of_policy rfl rfl)

end OnStore

/-! ## No new candidates -/

theorem append_subset {α : Type} {l₁ l₂ l₁' l₂' : List α} (h₁ : l₁ ⊆ l₁') (h₂ : l₂ ⊆ l₂') :
    l₁ ++ l₂ ⊆ l₁' ++ l₂' :=
  List.append_subset.2
    ⟨List.subset_append_of_subset_left _ h₁, List.subset_append_of_subset_right _ h₂⟩

theorem flatMap_subset {α β : Type} {l l' : List α} {f g : α → List β} (hl : l ⊆ l')
    (hfg : ∀ x, f x ⊆ g x) : l.flatMap f ⊆ l'.flatMap g := by
  intro y hy
  obtain ⟨x, hx, hy⟩ := List.mem_flatMap.1 hy
  exact List.mem_flatMap.2 ⟨x, hl hx, hfg x hy⟩

theorem addresses_subset {found found' : List Resource} (h : found ⊆ found') :
    addresses kind parents found ⊆ addresses kind parents found' := List.map_subset _ h

section

variable (hs : s.OnStore p) (ha : a.WellFormed) (h : Thinned altered a b)
  (hlists : b.listFailures = a.listFailures)

include hs ha h hlists

theorem seen_subset (haccess : requireAccess p kind parents = .ok ()) (hkind : kind ∉ altered) :
    s.seen kind parents b ⊆ s.seen kind parents a := by
  have hpick : ∀ o, inList a.listFailures kind parents o = true → o.1.kind ∉ altered :=
    fun o ho => kind_of_inList ho ▸ hkind
  rw [hs.seen_eq haccess, hs.seen_eq haccess, hlists, h.filter_objects ha hpick]
  exact (List.filter_sublist.map _).subset

theorem seenOwned_subset (haccess : requireAccess p kind parents = .ok ())
    (hkind : kind ∉ altered) :
    s.seenOwned kind parents rules b ⊆ s.seenOwned kind parents rules a :=
  List.filter_subset _ (seen_subset hs ha h hlists haccess hkind)

/-- An object that is owned for what trimming spares was owned before it was trimmed. -/
theorem owned_before_trim (haccess : requireAccess p kind parents = .ok ()) {r : Resource}
    (hr : r ∈ s.seenOwned kind parents rules b)
    (hspared : ∀ r₀, r.TrimOf r₀ → r₀.Proper → s.owns rules r = s.owns rules r₀) :
    ∃ r₀ ∈ s.seenOwned kind parents rules a, r.TrimOf r₀ ∧ r₀.Proper := by
  rw [hs.seenOwned_eq haccess] at hr ⊢
  obtain ⟨o, ho, rfl⟩ := List.mem_map.1 hr
  obtain ⟨ho, hpick⟩ := List.mem_filter.1 ho
  obtain ⟨r₀, hr₀, htrim, -⟩ := h.found ((h.wellFormed ha).mem_iff.1 ho)
  have hproper : r₀.Proper := (ha.fits hr₀).proper
  obtain ⟨hlist, howns⟩ := Bool.and_eq_true_iff.1 hpick
  have howned : (inList a.listFailures kind parents (o.1, r₀) && s.owns rules r₀) = true := by
    rw [← hspared r₀ htrim hproper, howns, Bool.and_true, ← hlists]
    exact hlist
  exact ⟨r₀, List.mem_map.2 ⟨(o.1, r₀), List.mem_filter.2 ⟨ha.mem_iff.2 hr₀, howned⟩, rfl⟩,
    htrim, hproper⟩

/-- A logical port that serves DHCP was owned before it was trimmed, since it is still attached. -/
theorem served_before_trim (haccess : requireAccess p .logicalPort [] = .ok ())
    {model : Authority.Model} :
    addresses .logicalPort [] ((s.seenOwned .logicalPort [] [.attachmentId model] b).filter
        (·.attachmentType = some dhcpServiceType)) ⊆
      addresses .logicalPort [] ((s.seenOwned .logicalPort [] [.attachmentId model] a).filter
        (·.attachmentType = some dhcpServiceType)) := by
  intro k hk
  obtain ⟨r, hr, rfl⟩ := List.mem_map.1 hk
  obtain ⟨hr, hserves⟩ := List.mem_filter.1 hr
  have htype : r.attachmentType = some dhcpServiceType := of_decide_eq_true hserves
  have hattached := Resource.attached_of_type htype
  have hspared : ∀ r₀, r.TrimOf r₀ → r₀.Proper →
      s.owns [.attachmentId model] r = s.owns [.attachmentId model] r₀ := by
    intro r₀ htrim hproper
    have hid : r.attachmentId = r₀.attachmentId := htrim.attachmentField hproper hattached "id"
    simp only [owns, htrim.hasTag, NetSweep.withinAuthority, List.any_cons, List.any_nil,
      Narrowing.finds, hid]
  obtain ⟨r₀, hr₀, htrim, hproper⟩ := owned_before_trim hs ha h hlists haccess hr hspared
  have htype₀ : r₀.attachmentType = some dhcpServiceType :=
    (htrim.attachmentField hproper hattached "attachment_type").symm.trans htype
  refine List.mem_map.2 ⟨r₀, List.mem_filter.2 ⟨hr₀, decide_eq_true htype₀⟩, ?_⟩
  rw [htrim.id]

/-- What is left of a store has no other candidates. -/
theorem candidates_subset (category : Category)
    (hsteady : ∀ kind ∈ category.steady, kind ∉ altered) :
    s.candidates category b ⊆ s.candidates category a := by
  have howned : ∀ {kind parents rules}, kind.api = .policy → parents.length = kind.parentCount →
      kind ∈ category.steady → addresses kind parents (s.seenOwned kind parents rules b) ⊆
        addresses kind parents (s.seenOwned kind parents rules a) := by
    intro kind parents rules hapi hlength hkind
    exact addresses_subset (seenOwned_subset hs ha h hlists (requireAccess_of_policy hapi hlength)
      (hsteady kind hkind))
  cases category with
  | securityGroups =>
    exact append_subset (howned rfl rfl (by decide)) (howned rfl rfl (by decide))
  | segmentInterfaces =>
    have hrouters : s.seenOwned .tier1 [] [.id .routers] b ⊆
        s.seenOwned .tier1 [] [.id .routers] a :=
      seenOwned_subset hs ha h hlists (requireAccess_of_policy rfl rfl) (hsteady _ (by decide))
    refine flatMap_subset hrouters fun router => flatMap_subset ?_ fun service =>
      addresses_subset ?_
    · exact seen_subset hs ha h hlists (requireAccess_of_policy rfl rfl) (hsteady _ (by decide))
    · exact seen_subset hs ha h hlists (requireAccess_of_policy rfl rfl) (hsteady _ (by decide))
  | segments =>
    intro k hk
    obtain ⟨segment, hsegment, hk⟩ := List.mem_flatMap.1 hk
    -- the segments themselves may have been trimmed
    obtain ⟨segment₀, hsegment₀, htrim, -⟩ :=
      owned_before_trim hs ha h hlists (requireAccess_of_policy rfl rfl) hsegment
        fun _ htrim _ => owns_id_of_trim htrim
    rw [htrim.id] at hk
    have hports : addresses .segmentPort [segment₀.id]
        (s.seenOwned .segmentPort [segment₀.id] [.id .ports, .id .portMappings] b) ⊆
          addresses .segmentPort [segment₀.id]
            (s.seenOwned .segmentPort [segment₀.id] [.id .ports, .id .portMappings] a) :=
      howned rfl rfl (by decide)
    exact List.mem_flatMap.2
      ⟨segment₀, hsegment₀, append_subset hports (List.Subset.refl _) hk⟩
  | qosPolicies => exact howned rfl rfl (by decide)
  | loadBalancers =>
    intro k hk
    obtain ⟨kind, hkind, hk⟩ := List.mem_flatMap.1 hk
    obtain ⟨hapi, hcount⟩ := loadBalancerKinds_spec kind hkind
    have hlength : ([] : List String).length = kind.parentCount := hcount.symm
    exact List.mem_flatMap.2
      ⟨kind, hkind, howned hapi hlength hkind hk⟩
  | dhcp =>
    rw [candidates, candidates]
    split
    · rename_i hpass
      obtain rfl : p = true := hs.allowsPassthrough.symm.trans hpass
      refine append_subset
        (served_before_trim hs ha h hlists (requireAccess_of_passthrough rfl)) (addresses_subset ?_)
      exact seenOwned_subset hs ha h hlists (requireAccess_of_passthrough rfl)
        (hsteady _ (by decide))
    · exact List.Subset.refl _
  | tier1Routers => exact howned rfl rfl (by decide)

end

end Cleanup.Setting

end NetSweep
