import Mathlib.Logic.Relation
import NetSweep.Proofs.CategoryChanges

/-!
# Cleanup spares what the orchestrator does not own

Everything that a category removes or trims is warranted by the store that it starts from: the
object is owned, or only serves an object that is.  Firewall objects of gateways are the exception;
their link is the tag of the gateway.
-/

namespace NetSweep

open Cleanup Store

/-- The kinds that a category judges by ownership, with the rules that narrow them. -/
def Category.rules? : Category → Kind → Option (List Narrowing)
  | .securityGroups, .communicationMap => some [.id .securityGroups]
  | .securityGroups, .group =>
    some [.id .securityGroups, .idStart .securityGroupRules Narrowing.uuidLength]
  | .segmentInterfaces, .segment | .segments, .segment => some [.id .networks]
  | .segmentInterfaces, .tier1 | .tier1Routers, .tier1 => some [.id .routers]
  | .segments, .segmentPort => some [.id .ports, .id .portMappings]
  | .qosPolicies, .qosProfile => some [.id .qosPolicies]
  | .loadBalancers, kind => if kind ∈ Setting.loadBalancerKinds then some [] else none
  | .dhcp, .logicalPort => some [.attachmentId .dhcpServiceBindings]
  | .dhcp, .dhcpServer => some [.id .dhcpServiceBindings]
  | _, _ => none

/-- The kinds that are removed along with what contains them. -/
def Kind.serving : List Kind :=
  [.segmentDhcpStaticBinding, .tier1LocaleService, .tier1NatRule, .tier1StaticRoute,
   .tier1SegmentInterface] ++ portBindings

namespace Sweep

variable (c : Sweep Store) (category : Category) (base : Store)

/-- A stored object of a kind that the category judges by ownership, which carries the marker and,
where an authority is given and the kind has rules, is found by one of them. -/
def Owned (key : Address) (r : Resource) : Prop :=
  base.find? key = some r ∧ r.hasTag c.config.marker = true ∧
    ∃ rules, category.rules? key.kind = some rules ∧
      ∀ knows, c.authority = some knows → rules ≠ [] → ∃ rule ∈ rules, rule.finds knows r = true

/-- An object inside an owned segment, segment port or router, at any depth. -/
def Serving (key : Address) : Prop :=
  key.kind ∈ Kind.serving ∧
    ∃ (outer : Address) (r : Resource), c.Owned category base outer r ∧
      outer.kind ∈ [.segment, .segmentPort, .tier1] ∧
      Relation.TransGen (fun a b => a.contains b = true) outer key

/-- A logical port that serves DHCP on the network of an owned segment. -/
def ServingDhcp (key : Address) (r : Resource) : Prop :=
  category = .segments ∧ key.kind = .logicalPort ∧ r.hasTag c.config.marker = true ∧
    r.attachmentType = some "DHCP_SERVICE" ∧
    ∃ (segment : Address) (r' : Resource), c.Owned category base segment r' ∧
      segment.kind = .segment ∧ r.hasTag (.exact networkScope segment.id) = true

/-- A firewall object, which the category may remove for a gateway's sake. -/
def Firewall (key : Address) : Prop :=
  key.kind ∈ [.gatewayPolicy, .service] ∨
    key.kind = .group ∧ category ∈ [.loadBalancers, .tier1Routers]

/-- An object that the category takes off its network: an owned segment that is connected, or an
owned logical port that serves DHCP. -/
def Detached (key : Address) (r : Resource) : Prop :=
  c.Owned category base key r ∧
    (category = .segmentInterfaces ∧ key.kind = .segment ∧
        (r.field "connectivity_path").isSome = true ∨
      category = .dhcp ∧ key.kind = .logicalPort ∧ r.attachmentType = some "DHCP_SERVICE")

/-- What the first store says in favour of a change. -/
def Warranted : Change → Prop
  | .delete _ key => ∀ r, base.find? key = some r → Firewall category key ∨
      c.Owned category base key r ∨ c.Serving category base key ∨ c.ServingDhcp category base key r
  | .update key _ => ∀ r, base.find? key = some r → c.Detached category base key r

variable {c category base} {p : Bool}

section

variable (hs : (c.setting category).OnStore p) (hw : base.WellFormed)

include hs hw

theorem owned_of_mem {kind : Kind} {parents : List String} {rules : List Narrowing}
    (haccess : requireAccess p kind parents = .ok ()) (hrules : category.rules? kind = some rules)
    {r : Resource} (hr : r ∈ (c.setting category).seenOwned kind parents rules base) :
    c.Owned category base { kind, parents, id := r.id } r := by
  obtain ⟨hfound, howns⟩ := hs.find?_of_mem_seenOwned hw haccess hr
  obtain ⟨hmarker, hauthority⟩ := Bool.and_eq_true_iff.1 howns
  refine ⟨hfound, hmarker, rules, hrules, fun knows hknows hne => ?_⟩
  have hsome : (c.setting category).authority = some knows := hknows
  simpa [withinAuthority, hsome, hne] using hauthority

omit hs hw in
theorem Owned.warranted {key : Address} {r : Resource} (h : c.Owned category base key r)
    (role : Role) : c.Warranted category base (.delete role key) := fun r' hr' => by
  obtain rfl : r = r' := Option.some.inj (h.1.symm.trans hr')
  exact .inr (.inl h)

theorem warranted_clearing {kind : Kind} {parents : List String} {rules : List Narrowing}
    (haccess : requireAccess p kind parents = .ok ()) (hrules : category.rules? kind = some rules)
    {ch : Change} (hch : ch ∈ (c.setting category).clearing kind parents rules base) :
    c.Warranted category base ch := by
  obtain ⟨r, hr, rfl⟩ := List.mem_map.1 hch
  exact (owned_of_mem hs hw haccess hrules hr).warranted .owned

omit hs hw in
theorem warranted_inside {outer key : Address} {r : Resource}
    (h : c.Owned category base outer r) (houter : outer.kind ∈ [.segment, .segmentPort, .tier1])
    (hkind : key.kind ∈ Kind.serving)
    (hinside : Relation.TransGen (fun a b => a.contains b = true) outer key) (role : Role) :
    c.Warranted category base (.delete role key) :=
  fun _ _ => .inr (.inr (.inl ⟨hkind, outer, r, h, houter, hinside⟩))

omit hs hw in
theorem warranted_emptying {outer : Address} {r : Resource}
    (h : c.Owned category base outer r) (houter : outer.kind ∈ [.segment, .segmentPort, .tier1])
    {kind : Kind} (hkind : kind ∈ Kind.serving) (hparent : kind.parent? = some outer.kind)
    {ch : Change}
    (hch : ch ∈ (c.setting category).emptying kind (outer.parents ++ [outer.id]) base) :
    c.Warranted category base ch := by
  obtain ⟨r', -, rfl⟩ := List.mem_map.1 hch
  exact warranted_inside h houter hkind (.single (by simp [Address.contains, hparent])) .auxiliary

omit hs hw in
theorem warranted_firewallRemoval (hcategory : category ∈ [.loadBalancers, .tier1Routers])
    {tag : TagPredicate} {ch : Change}
    (hch : ch ∈ (c.setting category).firewallRemoval base tag) : c.Warranted category base ch := by
  obtain ⟨kind, hkind, hch⟩ := List.mem_flatMap.1 hch
  obtain ⟨r, -, rfl⟩ := List.mem_map.1 hch
  refine fun _ _ => .inl ?_
  simp only [Plan.firewallKinds, List.mem_cons, List.not_mem_nil, or_false] at hkind
  rcases hkind with rfl | rfl | rfl
  · exact .inl (by simp)
  · exact .inr ⟨rfl, hcategory⟩
  · exact .inl (by simp)

theorem warranted_segmentInterfaces (hcategory : category = .segmentInterfaces) {ch : Change}
    (hch : ch ∈ (c.setting category).changes .segmentInterfaces base) :
    c.Warranted category base ch := by
  subst hcategory
  rcases List.mem_append.1 hch with hch | hch
  · obtain ⟨segment, hsegment, hch⟩ := List.mem_flatMap.1 hch
    have howned := owned_of_mem hs hw (requireAccess_of_policy rfl rfl) rfl hsegment
    rcases List.mem_append.1 hch with hch | hch
    · exact warranted_emptying howned (by simp) (by decide) rfl hch
    · split at hch
      · rename_i hconnected
        obtain rfl := List.mem_singleton.1 hch
        intro r hr
        obtain rfl : segment = r := Option.some.inj (howned.1.symm.trans hr)
        exact ⟨howned, .inl ⟨rfl, rfl, hconnected⟩⟩
      · cases hch
  · obtain ⟨router, hrouter, hch⟩ := List.mem_flatMap.1 hch
    have howned := owned_of_mem hs hw (requireAccess_of_policy rfl rfl) rfl hrouter
    obtain ⟨service, -, hch⟩ := List.mem_flatMap.1 hch
    obtain ⟨i, -, rfl⟩ := List.mem_map.1 hch
    refine warranted_inside howned (by simp) (by simp [Kind.serving]) ?_ .owned
    -- the interface lies in the locale service and that in the router
    exact .tail (b := { kind := .tier1LocaleService, parents := [router.id], id := service.id })
      (.single (by simp [Address.contains, Kind.parent?]))
      (by simp [Address.contains, Kind.parent?])

theorem warranted_segments (hcategory : category = .segments) {ch : Change}
    (hch : ch ∈ (c.setting category).changes .segments base) : c.Warranted category base ch := by
  subst hcategory
  obtain ⟨segment, hsegment, hch⟩ := List.mem_flatMap.1 hch
  have howned := owned_of_mem hs hw (requireAccess_of_policy rfl rfl) rfl hsegment
  rcases List.mem_append.1 hch with hch | hch
  · obtain ⟨port, hport, hch⟩ := List.mem_flatMap.1 hch
    have hport := owned_of_mem hs hw (requireAccess_of_policy rfl rfl) rfl hport
    rcases List.mem_append.1 hch with hch | hch
    · obtain ⟨kind, hkind, hch⟩ := List.mem_flatMap.1 hch
      exact warranted_emptying hport (by simp) (List.mem_append_right _ hkind)
        (Kind.portBindings_spec kind hkind).2.2.2 hch
    · obtain rfl := List.mem_singleton.1 hch
      exact hport.warranted .owned
  · rcases List.mem_append.1 hch with hch | hch
    · split at hch
      · rename_i hpass
        obtain ⟨port, hport, rfl⟩ := List.mem_map.1 hch
        obtain ⟨hport, htype⟩ := List.mem_filter.1 hport
        have haccess : requireApi p .logicalPort = .ok () := by
          simp [requireApi, hs.allowsPassthrough.symm.trans hpass]
        obtain ⟨parents, hdepth, hfound, htags⟩ := hs.find?_of_mem_sought hw haccess hport
        obtain rfl : parents = [] := List.length_eq_zero_iff.1 hdepth
        simp only [Resource.hasAllTags, List.all_cons, List.all_nil, Bool.and_eq_true] at htags
        intro r hr
        obtain rfl : port = r := Option.some.inj (hfound.symm.trans hr)
        exact .inr (.inr (.inr ⟨rfl, rfl, htags.1, of_decide_eq_true htype, _, _, howned, rfl,
          htags.2.1⟩))
      · cases hch
    · obtain rfl := List.mem_singleton.1 hch
      exact howned.warranted .owned

theorem warranted_dhcp (hcategory : category = .dhcp) {ch : Change}
    (hch : ch ∈ (c.setting category).changes .dhcp base) : c.Warranted category base ch := by
  subst hcategory
  rw [Setting.changes] at hch
  split at hch
  · rename_i hpass
    obtain rfl : p = true := hs.allowsPassthrough.symm.trans hpass
    rcases List.mem_append.1 hch with hch | hch
    · obtain ⟨port, hport, hch⟩ := List.mem_flatMap.1 hch
      have howned := owned_of_mem hs hw (requireAccess_of_passthrough rfl) rfl hport
      unfold Setting.servicePortRemoval at hch
      split at hch
      · rename_i htype
        rcases List.mem_cons.1 hch with rfl | hch
        · intro r hr
          obtain rfl : port = r := Option.some.inj (howned.1.symm.trans hr)
          exact ⟨howned, .inr ⟨rfl, rfl, htype⟩⟩
        · obtain rfl := List.mem_singleton.1 hch
          exact howned.warranted .owned
      · cases hch
    · exact warranted_clearing hs hw (requireAccess_of_passthrough rfl) rfl hch
  · cases hch

theorem warranted_tier1Routers (hcategory : category = .tier1Routers) {ch : Change}
    (hch : ch ∈ (c.setting category).changes .tier1Routers base) :
    c.Warranted category base ch := by
  subst hcategory
  obtain ⟨router, hrouter, hch⟩ := List.mem_flatMap.1 hch
  have howned := owned_of_mem hs hw (requireAccess_of_policy rfl rfl) rfl hrouter
  rcases List.mem_cons.1 hch with rfl | hch
  · exact fun _ _ => .inl (.inl (by simp))
  rcases List.mem_append.1 hch with hch | hch
  · exact warranted_firewallRemoval (by simp) hch
  rcases List.mem_append.1 hch with hch | hch
  · obtain ⟨kind, hkind, hch⟩ := List.mem_flatMap.1 hch
    have hserving : ∀ kind ∈ Setting.routerParts, kind ∈ Kind.serving := by decide
    exact warranted_emptying howned (by simp) (hserving kind hkind)
      (Setting.routerParts_spec kind hkind).2.2.2 hch
  · obtain rfl := List.mem_singleton.1 hch
    exact howned.warranted .owned

/-- Every change that a category asks for is warranted. -/
theorem changes_warranted {ch : Change}
    (hch : ch ∈ (c.setting category).changes category base) : c.Warranted category base ch := by
  cases hcategory : category with
  | securityGroups =>
    subst hcategory
    rcases List.mem_append.1 hch with hch | hch <;>
      exact warranted_clearing hs hw (requireAccess_of_policy rfl rfl) rfl hch
  | segmentInterfaces =>
    subst hcategory
    exact warranted_segmentInterfaces hs hw rfl hch
  | segments =>
    subst hcategory
    exact warranted_segments hs hw rfl hch
  | qosPolicies =>
    subst hcategory
    exact warranted_clearing hs hw (requireAccess_of_policy rfl rfl) rfl hch
  | loadBalancers =>
    subst hcategory
    rcases List.mem_append.1 hch with hch | hch
    · obtain ⟨service, -, hch⟩ := List.mem_flatMap.1 hch
      exact warranted_firewallRemoval (by simp) hch
    · obtain ⟨kind, hkind, hch⟩ := List.mem_flatMap.1 hch
      obtain ⟨hapi, hcount⟩ := Setting.loadBalancerKinds_spec kind hkind
      exact warranted_clearing hs hw (requireAccess_of_policy hapi (by simp [hcount]))
        (by simp [Category.rules?, hkind]) hch
  | dhcp =>
    subst hcategory
    exact warranted_dhcp hs hw rfl hch
  | tier1Routers =>
    subst hcategory
    exact warranted_tier1Routers hs hw rfl hch

end

/-- Whatever the cleanup of a category removes is owned, serves an owned object, or is a firewall
object.  Nothing is added, and of what is left only detached objects are trimmed. -/
theorem sweepCategory_spares_unowned (hb : c.backend = Store.backend p)
    (hdry : c.config.dryRun = false) (category : Category) (t : Trace Store)
    (hfilled : t.backend.Filled) (key : Address) :
    (∀ r, t.backend.find? key = some r →
      (c.sweepCategory category t).2.backend.find? key = none →
        Firewall category key ∨ c.Owned category t.backend key r ∨
          c.Serving category t.backend key ∨ c.ServingDhcp category t.backend key r) ∧
    (∀ r', (c.sweepCategory category t).2.backend.find? key = some r' →
      ∃ r, t.backend.find? key = some r ∧ r'.TrimOf r ∧
        (r' ≠ r → c.Detached category t.backend key r)) := by
  have hw := hfilled.wellFormed
  have hs : (c.setting category).OnStore p := onStore hb hdry
  obtain ⟨done, hdone, hback⟩ := sweepCategory_done hs hw
  have hmild : ∀ ch ∈ done, ch.Mild category.altered c.config.domain := fun ch hch =>
    mild_of_mem_changes hs hw ch (hdone.subset hch)
  rw [hback]
  refine ⟨fun r hr hgone => ?_, fun r' hr' => ?_⟩
  · obtain ⟨role, hmem⟩ := delete_mem_of_removed hr hgone
    exact changes_warranted hs hw (hdone.subset hmem) r hr
  · obtain ⟨r, hr, htrim, -⟩ := ((Thinned.refl hw).applyAll hw hmild).found hr'
    refine ⟨r, hr, htrim, fun hne => ?_⟩
    obtain ⟨body, hmem⟩ := update_mem_of_altered hw hmild hr hr' hne
    exact changes_warranted hs hw (hdone.subset hmem) r hr

/-- The rule inside the router is removed along with it, and the router is owned. -/
theorem rule_removed_for_owned_router :
    let key : Address := { kind := .tier1NatRule, parents := ["ours"], id := "rule" }
    let c := standard (Store.backend false) none .default
    (c.sweepCategory .tier1Routers (.start shared)).2.backend.find? key = none ∧
      (Firewall .tier1Routers key ∨
        c.Owned .tier1Routers shared key (complete key (.bare "rule")) ∨
        c.Serving .tier1Routers shared key ∨
        c.ServingDhcp .tier1Routers shared key (complete key (.bare "rule"))) := by
  have hgone : ((standard (Store.backend false) none .default).sweepCategory .tier1Routers
      (.start shared)).2.backend.find?
        { kind := .tier1NatRule, parents := ["ours"], id := "rule" } = none := by decide +kernel
  exact ⟨hgone, (sweepCategory_spares_unowned rfl rfl .tier1Routers (.start shared) shared_filled
    _).1 _ rfl hgone⟩

end Sweep

end NetSweep
