import NetSweep.Proofs.LeavesFirst

/-!
# Typical stores

In a typical store the orchestrator owns everything, and objects only refer to objects of kinds
that theirs depends on.  Two objects are tangled if the first refers to the second, although the
standard plan deletes the second one first.
-/

namespace NetSweep

open Cleanup Store Change

namespace Kind

def leaves : List Kind := all.filter fun k => all.all fun j => k ∉ j.dependencies

theorem not_mem_dependencies_of_leaf {k : Kind} (h : k ∈ leaves) (j : Kind) :
    k ∉ j.dependencies := by
  have hall := List.all_eq_true.1 (List.mem_filter.1 h).2 j (mem_all j)
  simpa using hall

theorem dependent_of_group {j : Kind} (h : .group ∈ j.dependencies) :
    j = .communicationMap ∨ j = .gatewayPolicy := by
  revert h
  cases j <;> decide

theorem dependent_of_segmentPort {j : Kind} (h : .segmentPort ∈ j.dependencies) :
    j ∈ portBindings := by
  revert h
  cases j <;> decide

theorem dependent_of_segment {j : Kind} (h : .segment ∈ j.dependencies) :
    j = .segmentDhcpStaticBinding ∨ j = .tier1SegmentInterface ∨ j = .segmentPort := by
  revert h
  cases j <;> decide

theorem dependent_of_qosProfile {j : Kind} (h : .qosProfile ∈ j.dependencies) :
    j = .segmentPortQosBinding := by
  revert h
  cases j <;> decide

theorem dependent_of_dhcpServer {j : Kind} (h : .dhcpServer ∈ j.dependencies) :
    j = .logicalPort := by
  revert h
  cases j <;> decide

theorem dependent_of_localeService {j : Kind} (h : .tier1LocaleService ∈ j.dependencies) :
    j = .tier1SegmentInterface := by
  revert h
  cases j <;> decide

theorem dependent_of_tier1 {j : Kind} (h : .tier1 ∈ j.dependencies) :
    j = .segment ∨ j = .lbService ∨ j ∈ Setting.routerParts := by
  revert h
  cases j <;> decide

end Kind

/-! ## Addresses in order -/

namespace Address

variable {kind : Kind} {ps qs : List String} {x y : String}

theorem mk_lt_mk : ({ kind, parents := ps, id := x } : Address) < { kind, parents := qs, id := y } ↔
    ps < qs ∨ ps = qs ∧ x < y := by
  show _ < _ ∨ _ ↔ _
  simp

theorem not_lt_self (k : Address) : ¬ k < k := by
  obtain ⟨kind, parents, id⟩ := k
  simp [mk_lt_mk]

end Address

/-! ## Typical stores -/

/-- Everything in the store is owned and in its place, and refers only to what its kind depends
on. -/
structure Cleanup.Typical (config : Config) (b : Store) : Prop where
  wellFormed : b.WellFormed
  deletes : b.deleteFailures = []
  lists : b.listFailures = []
  marked : ∀ {k r}, b.find? k = some r → r.hasTag config.marker = true
  placed : ∀ {k}, b.find? k ≠ none → k.kind.inDomain = true → k.parents = [config.domain]
  housed : b.Housed
  typed : ∀ {a k}, b.Refers a k → a ≠ k → k.kind ∈ a.kind.dependencies

namespace Cleanup.Typical

variable {config : Config} {b t : Store} {a k : Address} {altered : List Kind} {p : Bool}
  {cs : List Change}

theorem dependent (h : Typical config b) (hobs : b.Obstructs a k) :
    k.kind ∈ a.kind.dependencies := by
  obtain ⟨hne, -, hinside | hrefers⟩ := hobs
  · exact Kind.mem_dependencies_of_contains hinside
  · exact h.typed hrefers hne

theorem leaf_unobstructed (h : Typical config b) (hk : k.kind ∈ Kind.leaves) :
    ¬ b.Obstructs a k := fun hobs => Kind.not_mem_dependencies_of_leaf hk _ (h.dependent hobs)

theorem thinned (h : Typical config b) (hthin : Thinned altered b t) (hhoused : t.Housed)
    (hfail : t.failures = b.failures) : Typical config t where
  wellFormed := hthin.wellFormed h.wellFormed
  deletes := (congrArg (·.1) hfail).trans h.deletes
  lists := (congrArg (·.2.2) hfail).trans h.lists
  marked hr := by
    obtain ⟨r₀, hr₀, htrim, -⟩ := hthin.found hr
    rw [htrim.hasTag]
    exact h.marked hr₀
  placed hk := h.placed fun hnone => hk (hthin.find?_none hnone)
  housed := hhoused
  typed hrefers hne := h.dependent (hthin.obstructs ⟨hne, hrefers.stored, .inr hrefers⟩)

theorem applyAll (h : Typical config b) (hmild : ∀ c ∈ cs, c.Mild altered config.domain) :
    Typical config (applyAll p cs b) :=
  h.thinned ((Thinned.refl h.wellFormed).applyAll h.wellFormed hmild) h.housed.applyAll
    (failures_applyAll p cs b)

theorem parents_eq_nil (h : Typical config b) (hk : b.find? k ≠ none)
    (hcount : k.kind.parentCount = 0) : k.parents = [] := by
  obtain ⟨r, hr⟩ := Option.ne_none_iff_exists'.1 hk
  exact (h.wellFormed.fits hr).parents_eq_nil rfl hcount

theorem container (h : Typical config b) (ha : b.find? a ≠ none) {kind : Kind}
    (hparent : a.kind.parent? = some kind) : ∃ parents id, a.parents = parents ++ [id] ∧
      parents.length = kind.parentCount ∧ Address.contains { kind, parents, id } a = true ∧
        b.find? { kind, parents, id } ≠ none := by
  obtain ⟨outer, hcontains, hstored⟩ := h.housed a ha (by simp [hparent])
  obtain ⟨r, hr⟩ := Option.ne_none_iff_exists'.1 hstored
  have hdepth := (h.wellFormed.fits hr).depth
  obtain ⟨hkind, hparents⟩ : a.kind.parent? = some outer.kind ∧
      a.parents = outer.parents ++ [outer.id] := by simpa [Address.contains] using hcontains
  obtain rfl : kind = outer.kind := Option.some.inj (hparent.symm.trans hkind)
  exact ⟨outer.parents, outer.id, hparents, hdepth, hcontains, hstored⟩

theorem router_of_part (h : Typical config b) (ha : b.find? a ≠ none)
    (hkind : a.kind ∈ Setting.routerParts) :
    ∃ router, a.parents = [router] ∧
      Address.contains { kind := .tier1, parents := [], id := router } a = true ∧
        b.find? { kind := .tier1, parents := [], id := router } ≠ none := by
  obtain ⟨parents, id, hparents, hdepth, hinside⟩ :=
    h.container ha (Setting.routerParts_spec _ hkind).2.2.2
  obtain rfl := List.length_eq_zero_iff.1 hdepth
  exact ⟨id, hparents, hinside⟩

theorem segment_of_port (h : Typical config b) (ha : b.find? a ≠ none)
    (hkind : a.kind = .segmentPort) :
    ∃ segment, a.parents = [segment] ∧
      Address.contains { kind := .segment, parents := [], id := segment } a = true ∧
        b.find? { kind := .segment, parents := [], id := segment } ≠ none := by
  have hparent : a.kind.parent? = some .segment := by
    rw [hkind]
    rfl
  obtain ⟨parents, id, hparents, hdepth, hinside⟩ := h.container ha hparent
  obtain rfl := List.length_eq_zero_iff.1 hdepth
  exact ⟨id, hparents, hinside⟩

theorem port_of_binding (h : Typical config b) (ha : b.find? a ≠ none)
    (hkind : a.kind ∈ Kind.portBindings) :
    ∃ segment port, a.parents = [segment, port] ∧
      Address.contains { kind := .segmentPort, parents := [segment], id := port } a = true ∧
        b.find? { kind := .segmentPort, parents := [segment], id := port } ≠ none := by
  obtain ⟨parents, id, hparents, hdepth, hinside⟩ :=
    h.container ha (Kind.portBindings_spec _ hkind).2.2.2
  obtain ⟨segment, rfl⟩ := List.length_eq_one_iff.1 hdepth
  exact ⟨segment, id, hparents, hinside⟩

/-- A leaf goes whenever somebody deletes it. -/
theorem leaf_removed (h : Typical config b) (hmild : ∀ c ∈ cs, c.Mild altered config.domain)
    (hreach : ∀ c ∈ cs, requireAccess p c.target.kind c.target.parents = .ok ())
    (hk : k.kind ∈ Kind.leaves) (hfells : Fells cs k) :
    (Change.applyAll p cs b).find? k = none := by
  obtain ⟨c, hc, hfirm⟩ := hfells
  obtain ⟨role, rfl⟩ := eq_delete_of_firm? hfirm
  cases hr : b.find? k with
  | none => exact find?_applyAll_none hr
  | some r =>
    have hfree := obstacle?_eq_none_of_unobstructed h.wellFormed h.deletes hr
      fun a => h.leaf_unobstructed hk
    exact (Thinned.refl h.wellFormed).removed h.wellFormed rfl hmild hc (hreach _ hc) hr hfree

end Cleanup.Typical

def Store.ServesDhcp (s : Store) : Prop :=
  ∀ {k r}, s.find? k = some r → k.kind = .logicalPort →
    r.attachmentType = some Setting.dhcpServiceType

theorem Store.Thinned.servesDhcp {altered : List Kind} {s t : Store} (h : Thinned altered s t)
    (haltered : .logicalPort ∉ altered) (hs : s.ServesDhcp) : t.ServesDhcp := by
  intro k r hr hkind
  obtain ⟨r₀, hr₀, -, hsame⟩ := h.found hr
  obtain rfl := hsame (hkind ▸ haltered)
  exact hs hr₀ hkind

/-! ## Tangles -/

/-- The first object lies in a container of the second one's kind, and in a later one. -/
def Address.LiesAfter (a k : Address) : Prop :=
  ∃ outer : Address, outer.contains a = true ∧ outer.kind = k.kind ∧ k < outer

namespace Category

/-- The objects of a category that its changes do not delete in the right order, if the first
refers to the second. -/
def Tangles : Category → Address → Address → Prop
  | .securityGroups, a, k => a.kind = .gatewayPolicy ∧ k.kind = .group
  | .segments, a, k => a.kind ∈ .segmentPort :: Kind.portBindings ∧ a.LiesAfter k
  | .tier1Routers, a, k => a.kind ∈ Setting.routerParts ∧ a.LiesAfter k
  | _, _, _ => False

def tangled : Category → List Kind
  | .securityGroups => [.gatewayPolicy, .group]
  | .segments => .segment :: .segmentPort :: Kind.portBindings
  | .tier1Routers => .tier1 :: Setting.routerParts
  | _ => []

/-- The kinds of which nothing may be left when a category begins. -/
def needs : Category → List Kind
  | .segments => [.segmentDhcpStaticBinding, .tier1SegmentInterface]
  | .qosPolicies => [.segmentPortQosBinding]
  | .tier1Routers => [.tier1SegmentInterface, .segment, .lbService]
  | _ => []

/-- The kinds that a category has to remove everything of. -/
def clears : Category → List Kind
  | .segmentInterfaces => [.segmentDhcpStaticBinding, .tier1SegmentInterface]
  | .segments => .segment :: Kind.portBindings
  | .loadBalancers => [.lbService]
  | _ => []

end Category

theorem Address.LiesAfter.parent? {a k : Address} (h : a.LiesAfter k) :
    a.kind.parent? = some k.kind := by
  obtain ⟨outer, hcontains, hkind, -⟩ := h
  simp only [Address.contains, decide_eq_true_eq] at hcontains
  rw [hcontains.1, hkind]

/-- Where the later container lies, of an object that is in the store. -/
theorem Address.LiesAfter.container {a k : Address} (h : a.LiesAfter k) {s : Store}
    (hw : s.WellFormed) (ha : s.find? a ≠ none) : ∃ parents id, a.parents = parents ++ [id] ∧
      parents.length = k.kind.parentCount ∧
        (k.parents < parents ∨ k.parents = parents ∧ k.id < id) := by
  obtain ⟨r, hr⟩ := Option.ne_none_iff_exists'.1 ha
  have hdepth := (hw.fits hr).depth
  rw [Kind.parentCount_of_parent? h.parent?] at hdepth
  obtain ⟨⟨outerKind, parents, id⟩, hcontains, rfl, hlt⟩ := h
  simp only [Address.contains, decide_eq_true_eq] at hcontains
  refine ⟨parents, id, hcontains.2, ?_, mk_lt_mk.1 hlt⟩
  simpa [hcontains.2] using hdepth

theorem Address.liesAfter_of_lt {a : Address} {kind : Kind} {parents : List String} {x y : String}
    (hcontains : Address.contains { kind, parents, id := y } a = true) (hlt : x < y) :
    a.LiesAfter { kind, parents, id := x } := ⟨_, hcontains, rfl, mk_lt_mk.2 (.inr ⟨rfl, hlt⟩)⟩

namespace Category.Tangles

variable {category : Category} {a k : Address}

theorem of_segments (h : Category.segments.Tangles a k) : a.LiesAfter k ∧
    (a.kind = .segmentPort ∧ k.kind = .segment ∨
      a.kind ∈ Kind.portBindings ∧ k.kind = .segmentPort) := by
  obtain ⟨ha, hafter⟩ := h
  have hparent := hafter.parent?
  rcases List.mem_cons.1 ha with ha | ha
  · rw [ha] at hparent
    exact ⟨hafter, .inl ⟨ha, (Option.some.inj hparent).symm⟩⟩
  · rw [(Kind.portBindings_spec _ ha).2.2.2] at hparent
    exact ⟨hafter, .inr ⟨ha, (Option.some.inj hparent).symm⟩⟩

theorem of_tier1Routers (h : Category.tier1Routers.Tangles a k) :
    a.LiesAfter k ∧ a.kind ∈ Setting.routerParts ∧ k.kind = .tier1 := by
  obtain ⟨ha, hafter⟩ := h
  have hparent := hafter.parent?
  rw [(Setting.routerParts_spec _ ha).2.2.2] at hparent
  exact ⟨hafter, ha, (Option.some.inj hparent).symm⟩

theorem mem_tangled (h : category.Tangles a k) :
    a.kind ∈ category.tangled ∧ k.kind ∈ category.tangled := by
  cases category with
  | securityGroups => simp [tangled, h.1, h.2]
  | segments => rcases h.of_segments with ⟨-, ⟨ha, hk⟩ | ⟨ha, hk⟩⟩ <;> simp [tangled, ha, hk]
  | tier1Routers =>
    obtain ⟨-, ha, hk⟩ := h.of_tier1Routers
    simp [tangled, ha, hk]
  | _ => exact h.elim

/-- What may be tangled is not what categories trim. -/
theorem untrimmed (h : category.Tangles a k) : a.kind ∉ [Kind.segment, .logicalPort] := by
  cases category with
  | securityGroups =>
    rw [h.1]
    decide
  | segments =>
    have hkinds : ∀ kind ∈ Kind.segmentPort :: Kind.portBindings,
        kind ∉ [Kind.segment, .logicalPort] := by decide
    exact hkinds _ h.1
  | tier1Routers =>
    have hkinds : ∀ kind ∈ Setting.routerParts, kind ∉ [Kind.segment, .logicalPort] := by decide
    exact hkinds _ h.1
  | _ => exact h.elim

/-- Neither object lies in the other, so that one is in the way only by referring to it. -/
theorem obstructs_iff {s : Store} (h : category.Tangles a k) :
    s.Obstructs a k ↔ s.Refers a k := by
  have hout : k.contains a = false := by
    refine Bool.eq_false_iff.2 fun hinside => ?_
    have hafter : a.LiesAfter k → False := by
      rintro ⟨outer, hcontains, -, hlt⟩
      exact Address.not_lt_self k (Address.eq_of_contains hcontains hinside ▸ hlt)
    cases category with
    | securityGroups => simp [Address.contains, h.1, Kind.parent?] at hinside
    | segments | tier1Routers => exact hafter h.2
    | _ => exact h
  have hne : a ≠ k := by
    rintro rfl
    have hafter : a.LiesAfter a → False := fun hafter => by
      have hparent := hafter.parent?
      revert hparent
      cases a.kind <;> decide
    cases category with
    | securityGroups => exact absurd (h.1.symm.trans h.2) (by decide)
    | segments | tier1Routers => exact hafter h.2
    | _ => exact h
  constructor
  · rintro ⟨-, -, hinside | hrefers⟩
    · rw [hout] at hinside
      cases hinside
    · exact hrefers
  · exact fun hrefers => ⟨hne, hrefers.stored, .inr hrefers⟩

end Category.Tangles

/-- Some objects of a category are tangled. -/
def Store.Tangled (s : Store) : Prop :=
  ∃ (category : Category) (a k : Address), category.Tangles a k ∧ s.Refers a k

end NetSweep
