import Mathlib.Data.List.Basic
import NetSweep.Cleanup.Sweep

/-!
# The procedures, step by step

The procedures of the categories are made of a few steps, and of each a category only takes those
for kinds that the standard plan gives it and that the backend lets it reach.  Whatever relates
each step to the same step over another backend and under other policies, and carries over to one
task after another, relates the procedures.  A relation that does not look at its second task is a
property of tasks.
-/

namespace NetSweep

def Category.kinds (category : Category) : List Kind :=
  (Plan.standard.steps.filter (·.category = category)).flatMap Plan.Step.kinds

/-- The kinds of which a category updates objects. -/
def Category.altered : Category → List Kind
  | .segmentInterfaces => [.segment]
  | .dhcp => [.logicalPort]
  | _ => []

/-- The kinds of which a category answers for objects, and reports what becomes of them. -/
def Category.reported : Category → List Kind
  | .securityGroups => [.communicationMap, .group]
  | .segmentInterfaces => [.tier1SegmentInterface]
  | .segments => [.segmentPort, .segment]
  | .qosPolicies => [.qosProfile]
  | .loadBalancers => Cleanup.Setting.loadBalancerKinds
  | .dhcp => [.logicalPort, .dhcpServer]
  | .tier1Routers => [.tier1]

theorem Category.reported_subset (category : Category) : category.reported ⊆ category.kinds := by
  cases category <;> decide

/-- An update that only withdraws some of an object's other fields: each is laid over by null. -/
def Json.Withdraws (body : Json) : Prop :=
  ∃ names : List String, body = .object (names.map (·, .null)) ∧
    ∀ name ∈ names, name ∉ Resource.ownKeys

namespace Cleanup

variable {σ τ : Type} {R : ∀ {α : Type}, Task σ α → Task τ α → Prop}

/-- A relation between tasks that holds of doing nothing and carries over to one task after
another. -/
structure Task.Congruence (R : ∀ {α : Type}, Task σ α → Task τ α → Prop) : Prop where
  pure : ∀ {α : Type} (a : α), R (Pure.pure a) (Pure.pure a)
  bind : ∀ {α β : Type} {t : Task σ α} {u : Task τ α} {f : α → Task σ β} {g : α → Task τ β},
    R t u → (∀ a, R (f a) (g a)) → R (t >>= f) (u >>= g)

theorem Task.Congruence.each (h : Task.Congruence R) {α : Type} {items : List α}
    {f : α → Task σ Unit} {g : α → Task τ Unit} (hfg : ∀ a ∈ items, R (f a) (g a)) :
    R (Task.each items f) (Task.each items g) := by
  induction items with
  | nil => exact h.pure ()
  | cons a items ih =>
    exact h.bind (hfg a List.mem_cons_self) fun _ =>
      ih fun a ha => hfg a (List.mem_cons_of_mem _ ha)

namespace Setting

variable (s : Setting σ)

def Reaches (kind : Kind) : Prop := kind.api = .manager → s.backend.allowsPassthrough = true

theorem reaches_of_policy {kind : Kind} (h : kind.api = .policy) : s.Reaches kind := by
  intro hmanager
  rw [h] at hmanager
  cases hmanager

def searchAll (kind : Kind) (tags : List TagPredicate) : Task σ (List Resource) := do
  match ← s.askSearch kind tags with
  | .ok found => pure found
  | .error e => .fail (.listFailed kind e)

theorem sweepFirewall_eq (tag : TagPredicate) : s.sweepFirewall tag =
    Task.each Plan.firewallKinds fun kind => s.searchAll kind [tag] >>= fun found =>
      Task.each found fun r => s.deleteShared kind (s.domainParents kind) r.id := by
  rw [sweepFirewall]
  congr 1
  funext kind
  rw [searchAll, bind_assoc]
  congr 1
  funext answer
  cases answer <;> rfl

theorem sweepSecurityGroups_eq {s : Setting σ} : s.sweepSecurityGroups =
    (s.findOwned .communicationMap [s.config.domain] [.id .securityGroups] >>= fun found =>
      Task.each found fun r => s.deleteOwned .communicationMap [s.config.domain] r.id) >>= fun _ =>
    s.findOwned .group [s.config.domain]
        [.id .securityGroups, .idStart .securityGroupRules Narrowing.uuidLength] >>= fun found =>
      Task.each found fun r => s.deleteOwned .group [s.config.domain] r.id := by
  rw [bind_assoc]
  rfl

theorem deleteSegment_eq {s : Setting σ} (segment : Resource) : s.deleteSegment segment =
    (s.findOwnedOrNone .segmentPort [segment.id] [.id .ports, .id .portMappings] >>= fun ports =>
      Task.each ports (s.deletePort segment)) >>= fun _ =>
    (if s.backend.allowsPassthrough then s.deleteDhcpPorts segment else pure ()) >>= fun _ =>
      s.deleteOwned .segment [] segment.id := by
  by_cases h : s.backend.allowsPassthrough = true <;> simp [Setting.deleteSegment, h]

def onto (b : Backend τ) (policies : Policies) (policy : FailurePolicy) : Setting τ :=
  { backend := b, authority := s.authority, config := { s.config with policies }, policy }

/-- Each step of a category is related to the same step in another setting.  What is inside
something else is listed with tolerance for its being gone, everything else without, and the
category answers for the objects of some kinds only. -/
structure StepsRelate (s : Setting σ) (u : Setting τ) (category : Category)
    (R : ∀ {α : Type}, Task σ α → Task τ α → Prop) : Prop extends Task.Congruence R where
  note : ∀ record, R (note record) (note record)
  skip : category = .dhcp → s.backend.allowsPassthrough = false →
    R (tally fun r => { r with skipped := some noPassthrough })
      (tally fun r => { r with skipped := some noPassthrough })
  list : ∀ kind parents, kind.parent? = none → s.Reaches kind →
    R (s.list kind parents) (u.list kind parents)
  listOrNone : ∀ kind parents, kind.parent?.isSome = true → s.Reaches kind →
    R (s.listOrNone kind parents) (u.listOrNone kind parents)
  searchAll : ∀ kind tags, kind ∈ Plan.firewallKinds → s.Reaches kind →
    R (s.searchAll kind tags) (u.searchAll kind tags)
  findDhcpPorts : ∀ segment, s.Reaches .logicalPort →
    R (s.findDhcpPorts segment) (u.findDhcpPorts segment)
  deleteOwned : ∀ kind parents id, kind ∈ category.reported → s.Reaches kind →
    R (s.deleteOwned kind parents id) (u.deleteOwned kind parents id)
  deleteAuxiliary : ∀ kind parents id, kind ∈ category.kinds → s.Reaches kind →
    R (s.deleteAuxiliary kind parents id) (u.deleteAuxiliary kind parents id)
  deleteShared : ∀ kind parents id, kind ∈ category.kinds → s.Reaches kind →
    R (s.deleteShared kind parents id) (u.deleteShared kind parents id)
  update : ∀ id body, body.Withdraws → ∀ kind ∈ category.altered, s.Reaches kind →
    R (s.update kind [] id body) (u.update kind [] id body)

namespace StepsRelate

variable {s} {b : Backend τ} {policies : Policies} {policy : FailurePolicy} {category : Category}
  (h : s.StepsRelate (s.onto b policies policy) category R)

include h

theorem findOwned {kind : Kind} {parents : List String} {rules : List Narrowing}
    (hplace : kind.parent? = none) (hreach : s.Reaches kind) :
    R (s.findOwned kind parents rules)
      ((s.onto b policies policy).findOwned kind parents rules) :=
  h.bind (h.list kind parents hplace hreach) fun _ => h.bind (h.note _) fun _ => h.pure _

theorem deleteContained {kind : Kind} {parents : List String} (hkind : kind ∈ category.kinds)
    (hplace : kind.parent?.isSome = true) (hreach : s.Reaches kind) :
    R (s.deleteContained kind parents)
      ((s.onto b policies policy).deleteContained kind parents) :=
  h.bind (h.listOrNone kind parents hplace hreach) fun _ => h.each fun r _ =>
    h.deleteAuxiliary kind parents r.id hkind hreach

theorem clear {kind : Kind} {parents : List String} {rules : List Narrowing}
    (hkind : kind ∈ category.reported) (hplace : kind.parent? = none) (hreach : s.Reaches kind) :
    R (s.findOwned kind parents rules >>= fun found =>
        Task.each found fun r => s.deleteOwned kind parents r.id)
      ((s.onto b policies policy).findOwned kind parents rules >>= fun found =>
        Task.each found fun r => (s.onto b policies policy).deleteOwned kind parents r.id) :=
  h.bind (h.findOwned hplace hreach) fun _ => h.each fun r _ =>
    h.deleteOwned kind parents r.id hkind hreach

theorem sweepFirewall (hkinds : ∀ kind ∈ Plan.firewallKinds, kind ∈ category.kinds)
    (tag : TagPredicate) :
    R (s.sweepFirewall tag) ((s.onto b policies policy).sweepFirewall tag) := by
  rw [sweepFirewall_eq, sweepFirewall_eq]
  refine h.each fun kind hkind => ?_
  have hapi : ∀ kind ∈ Plan.firewallKinds, kind.api = .policy := by decide
  have hreach : s.Reaches kind := s.reaches_of_policy (hapi kind hkind)
  exact h.bind (h.searchAll kind [tag] hkind hreach) fun found =>
    h.each fun r _ => h.deleteShared _ _ _ (hkinds kind hkind) hreach

theorem detachSegment (hcategory : category = .segmentInterfaces) (segment : Resource) :
    R (s.detachSegment segment) ((s.onto b policies policy).detachSegment segment) := by
  subst hcategory
  refine h.bind (h.deleteContained (by decide) rfl nofun) fun _ => ?_
  split
  · exact h.update _ _ ⟨["connectivity_path", "subnets"], rfl, by decide⟩ _ (by decide) nofun
  · exact h.pure ()

theorem deleteInterfaces (hcategory : category = .segmentInterfaces) (router service : Resource) :
    R (s.deleteInterfaces router service)
      ((s.onto b policies policy).deleteInterfaces router service) := by
  subst hcategory
  exact h.bind (h.listOrNone _ _ rfl nofun) fun _ =>
    h.each fun i _ => h.deleteOwned _ _ _ (by decide) nofun

theorem deletePort (hcategory : category = .segments) (segment port : Resource) :
    R (s.deletePort segment port) ((s.onto b policies policy).deletePort segment port) := by
  subst hcategory
  have hbindings : ∀ kind ∈ Kind.portBindings, kind ∈ Category.kinds .segments ∧
      kind.parent?.isSome = true ∧ kind.api = .policy := by decide
  refine h.bind (h.each fun kind hkind => ?_) fun _ => h.deleteOwned _ _ _ (by decide) nofun
  obtain ⟨hmem, hplace, hapi⟩ := hbindings kind hkind
  exact h.deleteContained hmem hplace (s.reaches_of_policy hapi)

theorem deleteDhcpPorts (hcategory : category = .segments)
    (hpass : s.backend.allowsPassthrough = true) (segment : Resource) :
    R (s.deleteDhcpPorts segment) ((s.onto b policies policy).deleteDhcpPorts segment) := by
  subst hcategory
  refine h.bind (h.findDhcpPorts segment fun _ => hpass) fun _ => h.each fun port _ => ?_
  split
  · exact h.deleteAuxiliary _ _ _ (by decide) fun _ => hpass
  · exact h.pure ()

theorem deleteSegment (hallows : b.allowsPassthrough = s.backend.allowsPassthrough)
    (hcategory : category = .segments) (segment : Resource) :
    R (s.deleteSegment segment) ((s.onto b policies policy).deleteSegment segment) := by
  have hself : R (s.deleteOwned .segment [] segment.id)
      ((s.onto b policies policy).deleteOwned .segment [] segment.id) := by
    subst hcategory
    exact h.deleteOwned _ _ _ (by decide) nofun
  have hports : R
      (s.findOwnedOrNone .segmentPort [segment.id] [.id .ports, .id .portMappings])
      ((s.onto b policies policy).findOwnedOrNone .segmentPort [segment.id]
        [.id .ports, .id .portMappings]) :=
    h.bind (h.listOrNone .segmentPort [segment.id] rfl nofun) fun _ =>
      h.bind (h.note _) fun _ => h.pure _
  have hsame : (s.onto b policies policy).backend.allowsPassthrough =
      s.backend.allowsPassthrough := hallows
  refine h.bind hports fun ports => ?_
  refine h.bind (h.each fun port _ => h.deletePort hcategory segment port) fun _ => ?_
  by_cases hpass : s.backend.allowsPassthrough = true
  · simp only [hsame, hpass, if_true]
    exact h.bind (h.deleteDhcpPorts hcategory hpass segment) fun _ => hself
  · simp only [hsame, hpass]
    exact hself

theorem deleteServicePort (hcategory : category = .dhcp)
    (hpass : s.backend.allowsPassthrough = true) (port : Resource) :
    R (s.deleteServicePort port) ((s.onto b policies policy).deleteServicePort port) := by
  subst hcategory
  unfold Setting.deleteServicePort
  split
  · refine h.bind (h.update _ _ ⟨["attachment"], rfl, by decide⟩ _ (by decide) fun _ => hpass)
      fun _ => ?_
    exact h.deleteOwned _ _ _ (by decide) fun _ => hpass
  · exact h.pure ()

theorem deleteRouter (hcategory : category = .tier1Routers) (router : Resource) :
    R (s.deleteRouter router) ((s.onto b policies policy).deleteRouter router) := by
  subst hcategory
  have hparts : ∀ kind ∈ routerParts, kind ∈ Category.kinds .tier1Routers ∧
      kind.parent?.isSome = true ∧ kind.api = .policy := by decide
  refine h.bind (h.deleteShared _ _ _ (by decide) nofun) fun _ =>
    h.bind (h.sweepFirewall (by decide) _) fun _ =>
      h.bind (h.each fun kind hkind => ?_) fun _ => h.deleteOwned _ _ _ (by decide) nofun
  obtain ⟨hmem, hplace, hapi⟩ := hparts kind hkind
  exact h.deleteContained hmem hplace (s.reaches_of_policy hapi)

/-- What relates the steps of a category relates its procedures, if the other backend lets as much
be reached. -/
theorem sweep (hallows : b.allowsPassthrough = s.backend.allowsPassthrough) :
    R (s.sweep category) ((s.onto b policies policy).sweep category) := by
  cases hcategory : category with
  | securityGroups =>
    subst hcategory
    exact h.bind (h.findOwned rfl nofun) fun found =>
      h.bind (h.each fun r _ => h.deleteOwned _ _ r.id (by decide) nofun) fun _ =>
        h.clear (by decide) rfl nofun
  | segmentInterfaces =>
    refine h.bind (h.findOwned rfl nofun) fun segments =>
      h.bind (h.each fun segment _ => h.detachSegment hcategory segment) fun _ =>
        h.bind (h.findOwned rfl nofun) fun routers => h.each fun router _ => ?_
    exact h.bind (h.listOrNone _ _ rfl nofun) fun services =>
      h.each fun service _ => h.deleteInterfaces hcategory router service
  | segments =>
    exact h.bind (h.findOwned rfl nofun) fun segments =>
      h.each fun segment _ => h.deleteSegment hallows hcategory segment
  | qosPolicies =>
    subst hcategory
    exact h.clear (by decide) rfl nofun
  | loadBalancers =>
    subst hcategory
    have hkinds : ∀ kind ∈ loadBalancerKinds, kind ∈ Category.reported .loadBalancers ∧
        kind.parent? = none ∧ kind.api = .policy := by decide
    refine h.bind (h.findOwned rfl nofun) fun services =>
      h.bind (h.each fun service _ => h.sweepFirewall (by decide) _) fun _ =>
        h.each fun kind hkind => ?_
    obtain ⟨hmem, hplace, hapi⟩ := hkinds kind hkind
    exact h.clear hmem hplace (s.reaches_of_policy hapi)
  | dhcp =>
    subst hcategory
    have hsame : (s.onto b policies policy).backend.allowsPassthrough =
        s.backend.allowsPassthrough := hallows
    rw [Setting.sweep, Setting.sweep, sweepDhcp, sweepDhcp, hsame]
    split
    · rename_i hpass
      exact h.bind (h.findOwned rfl fun _ => hpass) fun ports =>
        h.bind (h.each fun port _ => h.deleteServicePort rfl hpass port) fun _ =>
          h.clear (by decide) rfl fun _ => hpass
    · rename_i hpass
      exact h.bind (h.note _) fun _ => h.skip rfl (by simpa using hpass)
  | tier1Routers =>
    exact h.bind (h.findOwned rfl nofun) fun routers =>
      h.each fun router _ => h.deleteRouter hcategory router

end StepsRelate

end Setting

end Cleanup

end NetSweep
