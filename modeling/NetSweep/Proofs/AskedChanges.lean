import NetSweep.Proofs.CategoryChanges

/-!
# Which changes are asked for

Where lists are answered, a list gives what is stored in its place, and from that follows which
objects a category asks to delete, in which role, and for the sake of which owned object.
-/

namespace NetSweep

open Cleanup Store

namespace Category

def role (category : Category) (kind : Kind) : Role :=
  if kind ∈ category.reported then .owned
  else if kind ∈ Plan.firewallKinds then .shared
  else .auxiliary

theorem role_eq_owned_iff {category : Category} {kind : Kind} :
    category.role kind = .owned ↔ kind ∈ category.reported := by
  unfold role
  split
  · simp [*]
  · split <;> simp [*]

/-- A category deletes objects of the kind, and does so in the role. -/
def Deletes (category : Category) (role : Role) (kind : Kind) : Prop :=
  kind ∈ category.kinds ∧ role = category.role kind

instance (category : Category) (role : Role) (kind : Kind) :
    Decidable (category.Deletes role kind) := inferInstanceAs (Decidable (_ ∧ _))

theorem Deletes.owned_iff {category : Category} {role : Role} {kind : Kind}
    (h : category.Deletes role kind) : role = .owned ↔ kind ∈ category.reported := by
  rw [h.2, role_eq_owned_iff]

end Category

namespace Cleanup

variable {role : Role} {k : Address} {c : Change}

theorem mem_deletes {kind : Kind} {parents : List String} {found : List Resource} :
    c ∈ deletes role kind parents found ↔
      ∃ r ∈ found, c = .delete role { kind, parents, id := r.id } := by
  simp [deletes, eq_comm]

namespace Setting

variable {s : Setting Store} {p : Bool} {b : Store} {kind : Kind} {parents : List String}
  {rules : List Narrowing} {tags : List TagPredicate} {r : Resource}

/-! ## What lists give -/

section

variable (hs : s.OnStore p) (hw : b.WellFormed) (hlists : b.listFailures = [])

include hs hw hlists

theorem OnStore.mem_seen_iff (haccess : requireAccess p kind parents = .ok ()) :
    r ∈ s.seen kind parents b ↔ b.find? { kind, parents, id := r.id } = some r := by
  refine ⟨hs.find?_of_mem_seen hw haccess, fun hr => ?_⟩
  rw [hs.seen_eq haccess]
  refine List.mem_map.2 ⟨(_, r), List.mem_filter.2 ⟨hw.mem_iff.2 hr, ?_⟩, rfl⟩
  simp [inList, hlists]

theorem OnStore.mem_seenOwned_iff (haccess : requireAccess p kind parents = .ok ()) :
    r ∈ s.seenOwned kind parents rules b ↔
      b.find? { kind, parents, id := r.id } = some r ∧ s.owns rules r = true := by
  rw [← hs.mem_seen_iff hw hlists haccess]
  exact List.mem_filter

/-- What is stored is listed in its place. -/
theorem OnStore.mem_seen_of_found (haccess : requireAccess p k.kind k.parents = .ok ())
    (hr : b.find? k = some r) : r ∈ s.seen k.kind k.parents b ∧ r.id = k.id := by
  have hid := (hw.fits hr).id
  refine ⟨(hs.mem_seen_iff hw hlists haccess).2 ?_, hid⟩
  rw [hid]
  exact hr

theorem OnStore.mem_seenOwned_of_found (haccess : requireAccess p k.kind k.parents = .ok ())
    (hr : b.find? k = some r) (howns : s.owns rules r = true) :
    r ∈ s.seenOwned k.kind k.parents rules b ∧ r.id = k.id := by
  obtain ⟨hmem, hid⟩ := hs.mem_seen_of_found hw hlists haccess hr
  exact ⟨List.mem_filter.2 ⟨hmem, howns⟩, hid⟩

/-- What lies outside of all containers is listed as owned if it is. -/
theorem OnStore.root_listed (haccess : requireAccess p kind [] = .ok ())
    (hcount : kind.parentCount = 0) (hkind : k.kind = kind) (hr : b.find? k = some r)
    (howns : s.owns rules r = true) :
    r ∈ s.seenOwned kind [] rules b ∧ k = { kind, parents := [], id := r.id } := by
  have hself : k = { kind, parents := [], id := r.id } :=
    Address.ext hkind ((hw.fits hr).parents_eq_nil hkind hcount) (hw.fits hr).id.symm
  rw [hself] at hr
  exact ⟨(hs.mem_seenOwned_iff hw hlists haccess).2 ⟨hr, howns⟩, hself⟩

theorem OnStore.delete_mem_emptying (haccess : requireAccess p k.kind k.parents = .ok ())
    (hk : b.find? k ≠ none) : .delete .auxiliary k ∈ s.emptying k.kind k.parents b := by
  obtain ⟨r, hr⟩ := Option.ne_none_iff_exists'.1 hk
  obtain ⟨hmem, hid⟩ := hs.mem_seen_of_found hw hlists haccess hr
  refine mem_deletes.2 ⟨r, hmem, ?_⟩
  rw [hid]

theorem OnStore.mem_sought_iff (haccess : requireApi p kind = .ok ()) :
    r ∈ s.sought kind tags b ↔
      ∃ parents, b.find? { kind, parents, id := r.id } = some r ∧ r.hasAllTags tags = true := by
  constructor
  · intro hr
    obtain ⟨parents, -, hfound, htags⟩ := hs.find?_of_mem_sought hw haccess hr
    exact ⟨parents, hfound, htags⟩
  · rintro ⟨parents, hr, htags⟩
    rw [hs.sought_eq haccess]
    refine List.mem_map.2 ⟨(_, r), List.mem_filter.2 ⟨hw.mem_iff.2 hr, ?_⟩, rfl⟩
    simp [inSearch, hlists, htags]

end

/-! ## What categories ask for -/

theorem mem_unplugging {router : String} : c ∈ s.unplugging b router ↔
    ∃ service ∈ s.seen .tier1LocaleService [router] b,
      ∃ i ∈ s.seen .tier1SegmentInterface [router, service.id] b,
        c = .delete .owned
          { kind := .tier1SegmentInterface, parents := [router, service.id], id := i.id } := by
  simp only [unplugging, List.mem_flatMap, mem_deletes]

theorem mem_portRemoval {segment port : String} : c ∈ s.portRemoval b segment port ↔
    (∃ kind ∈ Kind.portBindings, ∃ r ∈ s.seen kind [segment, port] b,
      c = .delete .auxiliary { kind, parents := [segment, port], id := r.id }) ∨
    c = .delete .owned { kind := .segmentPort, parents := [segment], id := port } := by
  simp only [portRemoval, emptying, List.mem_append, List.mem_flatMap, mem_deletes,
    List.mem_singleton]

def portsRemoval (s : Setting Store) (b : Store) (segment : String) : List Change :=
  (s.seenOwned .segmentPort [segment] [.id .ports, .id .portMappings] b).flatMap fun port =>
    s.portRemoval b segment port.id

theorem mem_dhcpPortRemoval {segment : String} : c ∈ s.dhcpPortRemoval b segment ↔
    ∃ r ∈ s.sought .logicalPort [s.config.marker, .exact networkScope segment] b,
      r.attachmentType = some dhcpServiceType ∧
        c = .delete .auxiliary { kind := .logicalPort, parents := [], id := r.id } := by
  simp only [dhcpPortRemoval, mem_deletes, List.mem_filter, decide_eq_true_eq, and_assoc]

theorem mem_segmentRemoval {segment : String} : c ∈ s.segmentRemoval b segment ↔
    (∃ port ∈ s.seenOwned .segmentPort [segment] [.id .ports, .id .portMappings] b,
      c ∈ s.portRemoval b segment port.id) ∨
    (s.backend.allowsPassthrough = true ∧ c ∈ s.dhcpPortRemoval b segment) ∨
    c = .delete .owned { kind := .segment, parents := [], id := segment } := by
  simp only [segmentRemoval, List.mem_append, List.mem_flatMap, List.mem_singleton,
    List.mem_ite_nil_right]

theorem mem_firewallRemoval_iff {tag : TagPredicate} : c ∈ s.firewallRemoval b tag ↔
    ∃ kind ∈ Plan.firewallKinds, ∃ r ∈ s.sought kind [tag] b,
      c = .delete .shared { kind, parents := s.domainParents kind, id := r.id } := by
  simp only [firewallRemoval, List.mem_flatMap, mem_deletes]

theorem mem_routerRemoval {router : String} : c ∈ s.routerRemoval b router ↔
    c = .delete .shared { kind := .gatewayPolicy, parents := [s.config.domain], id := router } ∨
    c ∈ s.firewallRemoval b (.exact routerScope router) ∨
    (∃ kind ∈ routerParts, ∃ r ∈ s.seen kind [router] b,
      c = .delete .auxiliary { kind, parents := [router], id := r.id }) ∨
    c = .delete .owned { kind := .tier1, parents := [], id := router } := by
  simp only [routerRemoval, emptying, List.mem_cons, List.mem_append, List.mem_flatMap, mem_deletes,
    List.not_mem_nil, or_false]

theorem mem_servicePortRemoval {port : Resource} : c ∈ servicePortRemoval port ↔
    port.attachmentType = some dhcpServiceType ∧
      (c = .update { kind := .logicalPort, parents := [], id := port.id } detachment ∨
        c = .delete .owned { kind := .logicalPort, parents := [], id := port.id }) := by
  simp only [servicePortRemoval, List.mem_ite_nil_right, List.mem_cons, List.not_mem_nil, or_false]

/-- A category deletes objects of its kinds only, each kind in its role. -/
theorem deletes_of_mem_changes {category : Category} (h : .delete role k ∈ s.changes category b) :
    category.Deletes role k.kind := by
  have hdelete : ∀ {role' kind parents id},
      Change.delete role k = .delete role' { kind, parents, id } → category.Deletes role' kind →
        category.Deletes role k.kind := by
    rintro role' kind parents id ⟨⟩ hrole
    exact hrole
  have hdeletes : ∀ {role' kind parents found}, category.Deletes role' kind →
      .delete role k ∈ deletes role' kind parents found → category.Deletes role k.kind := by
    intro role' kind parents found hrole hmem
    obtain ⟨r, -, heq⟩ := mem_deletes.1 hmem
    exact hdelete heq hrole
  cases category with
  | securityGroups =>
    rcases List.mem_append.1 h with h | h
    · exact hdeletes (by decide) h
    · exact hdeletes (by decide) h
  | segmentInterfaces =>
    rcases List.mem_append.1 h with h | h
    · obtain ⟨segment, -, h⟩ := List.mem_flatMap.1 h
      rcases List.mem_append.1 h with h | h
      · exact hdeletes (by decide) h
      · rw [List.mem_ite_nil_right] at h
        cases List.mem_singleton.1 h.2
    · obtain ⟨router, -, h⟩ := List.mem_flatMap.1 h
      obtain ⟨service, -, h⟩ := List.mem_flatMap.1 h
      exact hdeletes (by decide) h
  | segments =>
    have hbindings : ∀ kind ∈ Kind.portBindings, Category.Deletes .segments .auxiliary kind := by
      decide
    obtain ⟨segment, -, h⟩ := List.mem_flatMap.1 h
    rcases mem_segmentRemoval.1 h with ⟨port, -, h⟩ | ⟨-, h⟩ | heq
    · rcases mem_portRemoval.1 h with ⟨kind, hkind, r, -, heq⟩ | heq
      · exact hdelete heq (hbindings kind hkind)
      · exact hdelete heq (by decide)
    · exact hdeletes (by decide) h
    · exact hdelete heq (by decide)
  | qosPolicies => exact hdeletes (by decide) h
  | loadBalancers =>
    have hfirewall : ∀ kind ∈ Plan.firewallKinds, Category.Deletes .loadBalancers .shared kind := by
      decide
    have hkinds : ∀ kind ∈ loadBalancerKinds, Category.Deletes .loadBalancers .owned kind := by
      decide
    rcases List.mem_append.1 h with h | h
    · obtain ⟨service, -, h⟩ := List.mem_flatMap.1 h
      obtain ⟨kind, hkind, r, -, heq⟩ := mem_firewallRemoval_iff.1 h
      exact hdelete heq (hfirewall kind hkind)
    · obtain ⟨kind, hkind, h⟩ := List.mem_flatMap.1 h
      exact hdeletes (hkinds kind hkind) h
  | dhcp =>
    rw [changes, List.mem_ite_nil_right] at h
    rcases List.mem_append.1 h.2 with h | h
    · obtain ⟨port, -, h⟩ := List.mem_flatMap.1 h
      obtain ⟨-, heq | heq⟩ := mem_servicePortRemoval.1 h
      · cases heq
      · exact hdelete heq (by decide)
    · exact hdeletes (by decide) h
  | tier1Routers =>
    have hfirewall : ∀ kind ∈ Plan.firewallKinds, Category.Deletes .tier1Routers .shared kind := by
      decide
    have hparts : ∀ kind ∈ routerParts, Category.Deletes .tier1Routers .auxiliary kind := by decide
    obtain ⟨router, -, h⟩ := List.mem_flatMap.1 h
    rcases mem_routerRemoval.1 h with heq | h | ⟨kind, hkind, r, -, heq⟩ | heq
    · exact hdelete heq (by decide)
    · obtain ⟨kind, hkind, r, -, heq⟩ := mem_firewallRemoval_iff.1 h
      exact hdelete heq (hfirewall kind hkind)
    · exact hdelete heq (hparts kind hkind)
    · exact hdelete heq (by decide)

end Setting

end Cleanup

end NetSweep
