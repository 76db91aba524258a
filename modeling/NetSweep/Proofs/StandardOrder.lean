import NetSweep.Proofs.CompleteRuns
import NetSweep.Proofs.OrderlyCategories

/-!
# The standard order

A whole cleanup of a typical store ends well, and reports no failure unless objects are tangled:
those the standard plan deletes in the wrong order.
-/

namespace NetSweep

open Cleanup Store Change

/-- What lies in a later segment or router has a later one on its way. -/
theorem Address.LiesAfter.trail {a k : Address} (h : a.LiesAfter k) {s : Store}
    (hw : s.WellFormed) (ha : s.find? a ≠ none) (hcount : k.kind.parentCount = 0) :
    ∃ later, a.trail.take 1 = [later] ∧ k.trail.take 1 = [k.id] ∧ k.id < later := by
  obtain ⟨parents, later, hparents, hdepth, hlt⟩ := h.container hw ha
  obtain rfl := List.length_eq_zero_iff.1 (hdepth.trans hcount)
  obtain ⟨hnil, hlt⟩ := hlt.resolve_left (List.not_lt_nil _)
  exact ⟨later, by simp [Address.trail, hparents], by simp [Address.trail, hnil], hlt⟩

namespace Cleanup.Setting

variable {s : Setting Store} {b : Store} {a k : Address} {category : Category} {c : Change}
  {segment port router : String} {role role' : Role}

/-! ## Whose removal a change belongs to -/

theorem trail_of_mem_portRemoval (hc : c ∈ s.portRemoval b segment port) :
    c.target.trail.take 2 = [segment, port] := by
  rcases List.mem_append.1 hc with hc | hc
  · obtain ⟨kind, -, hc⟩ := List.mem_flatMap.1 hc
    obtain ⟨r, -, rfl⟩ := List.mem_map.1 hc
    rfl
  · obtain rfl := List.mem_singleton.1 hc
    rfl

theorem trail_of_mem_segmentRemoval (hc : c ∈ s.segmentRemoval b segment)
    (hkind : c.target.kind ≠ .logicalPort) : c.target.trail.take 1 = [segment] := by
  rcases List.mem_append.1 hc with hc | hc
  · obtain ⟨port, -, hc⟩ := List.mem_flatMap.1 hc
    have htrail := congrArg (List.take 1) (trail_of_mem_portRemoval hc)
    rwa [List.take_take] at htrail
  · rcases List.mem_append.1 hc with hc | hc
    · split at hc
      · obtain ⟨r, -, rfl⟩ := List.mem_map.1 hc
        exact absurd rfl hkind
      · cases hc
    · obtain rfl := List.mem_singleton.1 hc
      rfl

theorem trail_of_mem_routerRemoval (hc : c ∈ s.routerRemoval b router)
    (hkind : c.target.kind ∉ Plan.firewallKinds) : c.target.trail.take 1 = [router] := by
  rcases List.mem_cons.1 hc with rfl | hc
  · exact absurd (show Kind.gatewayPolicy ∈ Plan.firewallKinds by decide) hkind
  rcases List.mem_append.1 hc with hc | hc
  · obtain ⟨kind, hfirewall, hc⟩ := List.mem_flatMap.1 hc
    obtain ⟨r, -, rfl⟩ := List.mem_map.1 hc
    exact absurd hfirewall hkind
  rcases List.mem_append.1 hc with hc | hc
  · obtain ⟨kind, -, hc⟩ := List.mem_flatMap.1 hc
    obtain ⟨r, -, rfl⟩ := List.mem_map.1 hc
    rfl
  · obtain rfl := List.mem_singleton.1 hc
    rfl

/-! ## The order of the deletes -/

theorem segment_of_deleted {e : Resource} {first : String} (hkind : a.kind ≠ .logicalPort)
    (hfirst : a.trail.take 1 = [first]) (hmem : .delete role a ∈ s.segmentRemoval b e.id) :
    e.id = first :=
  (List.cons.inj ((trail_of_mem_segmentRemoval hmem hkind).symm.trans hfirst)).1

theorem router_of_deleted {e : Resource} {first : String} (hkind : a.kind ∉ Plan.firewallKinds)
    (hfirst : a.trail.take 1 = [first]) (hmem : .delete role a ∈ s.routerRemoval b e.id) :
    e.id = first :=
  (List.cons.inj ((trail_of_mem_routerRemoval hmem hkind).symm.trans hfirst)).1

theorem port_of_deleted {e : Resource} {first second : String}
    (hfirst : a.trail.take 2 = [first, second])
    (hmem : .delete role a ∈ s.portRemoval b segment e.id) : e.id = second :=
  (List.cons.inj (List.cons.inj ((trail_of_mem_portRemoval hmem).symm.trans hfirst)).2).1

/-- A port is deleted along with the ports of its segment. -/
theorem pair_in_ports (hkind : k.kind = .segmentPort)
    (h : [.delete role a, .delete role' k].Sublist (s.segmentRemoval b segment)) :
    [.delete role a, .delete role' k].Sublist (s.portsRemoval b segment) := by
  refine sublist_left_of_not_mem h fun hmem => ?_
  rcases List.mem_append.1 hmem with hmem | hmem
  · split at hmem
    · obtain ⟨r, -, hdelete⟩ := List.mem_map.1 hmem
      cases hdelete
      cases hkind
    · cases hmem
  · cases List.mem_singleton.1 hmem
    cases hkind

section

variable (hs : s.OnStore true) (h : Typical s.config b) (ha : b.find? a ≠ none)

include hs h ha

/-- What lies in a later port does not go before an earlier one. -/
theorem not_in_order_ports (hafter : a.LiesAfter k) (hkinda : a.kind ∈ Kind.portBindings)
    (hkindk : k.kind = .segmentPort) (hk : b.find? k ≠ none) :
    ¬ [.delete role a, .delete role' k].Sublist (s.changes .segments b) := by
  have hsegments : ((s.seenOwned .segment [] [.id .networks] b).map Resource.id).Pairwise (· < ·) :=
    sorted_owned hs h.wellFormed [.id .networks] rfl
  obtain ⟨parents, later, hparents, hdepth, hlt⟩ := hafter.container h.wellFormed ha
  rw [hkindk] at hdepth
  obtain ⟨outer, rfl⟩ := List.length_eq_one_iff.1 hdepth
  obtain ⟨segment, hparentsk, -⟩ := h.segment_of_port hk hkindk
  rw [hparentsk] at hlt
  have hneither : a.kind ≠ .logicalPort ∧ k.kind ≠ .logicalPort := by
    refine ⟨fun hlogical => ?_, by simp [hkindk]⟩
    rw [hlogical] at hkinda
    revert hkinda
    decide
  have hfirst : a.trail.take 1 = [outer] ∧ k.trail.take 1 = [segment] := by
    simp [Address.trail, hparents, hparentsk]
  have hsecond : a.trail.take 2 = [outer, later] ∧ k.trail.take 2 = [segment, k.id] := by
    simp [Address.trail, hparents, hparentsk]
  intro hsub
  rcases pair_in_order hsegments hsub with ⟨e, -, hpair⟩ | ⟨e, -, e', -, hlt', hmem, hmem'⟩
  · -- in one segment the ports go in the order of their ids
    obtain rfl := segment_of_deleted hneither.1 hfirst.1 (hpair.subset List.mem_cons_self)
    have hsame := segment_of_deleted hneither.2 hfirst.2
      (hpair.subset (List.mem_cons_of_mem _ List.mem_cons_self))
    have hlt := (hlt.resolve_left (by simp [hsame])).2
    exact not_pair_of_lt (sorted_owned hs h.wellFormed [.id .ports, .id .portMappings] rfl)
      (fun r _ hmem => port_of_deleted hsecond.1 hmem)
      (fun r _ hmem => port_of_deleted hsecond.2 hmem) hlt (pair_in_ports hkindk hpair)
  · rw [segment_of_deleted hneither.1 hfirst.1 hmem,
      segment_of_deleted hneither.2 hfirst.2 hmem'] at hlt'
    rcases hlt with hlt | ⟨hsame, -⟩
    · rcases List.cons_lt_cons_iff.1 hlt with hlt | ⟨-, hlt⟩
      · exact absurd (hlt.trans hlt') (lt_irrefl _)
      · exact absurd hlt (List.not_lt_nil _)
    · rw [(List.cons.inj hsame).1] at hlt'
      exact absurd hlt' (lt_irrefl _)

/-- What lies in a later segment or port does not come before an earlier one. -/
theorem not_in_order_segments (htangles : Category.segments.Tangles a k)
    (hk : b.find? k ≠ none) :
    ¬ [.delete role a, .delete role' k].Sublist (s.changes .segments b) := by
  obtain ⟨hafter, ⟨hkinda, hkindk⟩ | ⟨hkinda, hkindk⟩⟩ := htangles.of_segments
  · obtain ⟨later, hat, hkt, hlt⟩ := hafter.trail h.wellFormed ha (by rw [hkindk]; rfl)
    refine not_pair_of_lt (sorted_owned hs h.wellFormed [.id .networks] rfl)
      (fun e _ hmem => segment_of_deleted (by simp [hkinda]) hat hmem)
      (fun e _ hmem => segment_of_deleted (by simp [hkindk]) hkt hmem) hlt
  · exact not_in_order_ports hs h ha hafter hkinda hkindk hk

theorem not_in_order_of_tangles (htangles : category.Tangles a k) (hk : b.find? k ≠ none) :
    ¬ [.delete role a, .delete role' k].Sublist (s.changes category b) := by
  cases category with
  | securityGroups =>
    intro hsub
    have hmem := hsub.subset List.mem_cons_self
    have hgateway : a.kind = .gatewayPolicy := htangles.1
    rcases List.mem_append.1 hmem with hmem | hmem
    · obtain ⟨r, -, hdelete⟩ := List.mem_map.1 hmem
      cases hdelete
      cases hgateway
    · obtain ⟨r, -, hdelete⟩ := List.mem_map.1 hmem
      cases hdelete
      cases hgateway
  | segments => exact not_in_order_segments hs h ha htangles hk
  | tier1Routers =>
    obtain ⟨hafter, hkinda, hkindk⟩ := htangles.of_tier1Routers
    obtain ⟨later, hat, hkt, hlt⟩ := hafter.trail h.wellFormed ha (by rw [hkindk]; rfl)
    have hparts : ∀ kind ∈ routerParts, kind ∉ Plan.firewallKinds := by decide
    exact not_pair_of_lt (sorted_owned hs h.wellFormed [.id .routers] rfl)
      (fun e _ hmem => router_of_deleted (hparts _ hkinda) hat hmem)
      (fun e _ hmem => router_of_deleted (by rw [hkindk]; decide) hkt hmem) hlt
  | _ => exact htangles.elim

end

/-! ## Tangled objects are refused -/

section

variable (hs : s.OnStore true) (hauthority : s.authority = none) (h : Typical s.config b)

include hs hauthority h

/-- Of tangled objects the category deletes the second. -/
theorem delete_mem_of_tangles (htangles : category.Tangles a k) (hk : b.find? k ≠ none) :
    .delete .owned k ∈ s.changes category b := by
  obtain ⟨kind, parents, id⟩ := k
  cases category with
  | securityGroups =>
    obtain rfl : kind = .group := htangles.2
    obtain rfl : parents = [s.config.domain] := h.placed hk rfl
    exact List.mem_append_right _ (hs.delete_mem_clearing hauthority h hk
      [.id .securityGroups, .idStart .securityGroupRules Narrowing.uuidLength])
  | segments =>
    obtain ⟨-, ⟨-, hkind⟩ | ⟨-, hkind⟩⟩ := htangles.of_segments
    · obtain rfl : kind = .segment := hkind
      obtain rfl : parents = [] := h.parents_eq_nil hk rfl
      exact segmentRemoval_subset hs hauthority h hk
        (List.mem_append_right _ (List.mem_append_right _ (List.mem_singleton_self _)))
    · obtain rfl : kind = .segmentPort := hkind
      obtain ⟨segment, hparents, -, hsegment⟩ := h.segment_of_port hk rfl
      obtain rfl : parents = [segment] := hparents
      have hmem : .delete .owned { kind := .segmentPort, parents := [segment], id } ∈
          s.portRemoval b segment id := List.mem_append_right _ (List.mem_singleton_self _)
      exact segmentRemoval_subset hs hauthority h hsegment
        (List.mem_append_left _ (portRemoval_subset hs hauthority h hk hmem))
  | tier1Routers =>
    obtain ⟨-, -, hkind⟩ := htangles.of_tier1Routers
    obtain rfl : kind = .tier1 := hkind
    obtain rfl : parents = [] := h.parents_eq_nil hk rfl
    exact routerRemoval_subset hs hauthority h hk (List.mem_cons_of_mem _
      (List.mem_append_right _ (List.mem_append_right _ (List.mem_singleton_self _))))
  | _ => exact htangles.elim

theorem mishaps_of_tangle (htangles : category.Tangles a k) (hrefers : b.Refers a k) :
    mishaps true (s.changes category b) b ≠ [] := by
  have hobs := htangles.obstructs_iff.2 hrefers
  obtain ⟨hmild, hreach, -⟩ := hs.sweep h.wellFormed category
  have hk := hrefers.target_stored
  intro hnone
  have hgone := gone_of_mishaps_nil h.deletes hreach hnone
    (delete_mem_of_tangles hs hauthority h htangles hk)
  have haltered : a.kind ∉ category.altered := fun hmem =>
    htangles.untrimmed (category.altered_subset hmem)
  obtain ⟨role, role', hsub⟩ := deleted_before h.wellFormed hmild hobs haltered hk hgone
  exact not_in_order_of_tangles hs h hrefers.stored htangles hk hsub

end

end Cleanup.Setting

/-! ## From category to category -/

/-- What categories have left of a typical store: nothing of some kinds is there any more, and of
all others but the spent ones everything is. -/
structure Cleanup.Stage (config : Config) (altered spent cleared : List Kind) (base b : Store) :
    Prop where
  typical : Typical config b
  thinned : Thinned altered base b
  trims : altered ⊆ [.segment, .logicalPort]
  kept : ∀ {k : Address}, k.kind ∉ spent → base.find? k ≠ none → b.find? k ≠ none
  cleared : ∀ {k : Address}, k.kind ∈ cleared → b.find? k = none

theorem Cleanup.Stage.start {config : Config} {b : Store} (h : Typical config b) :
    Stage config [] [] [] b b where
  typical := h
  thinned := .refl h.wellFormed
  trims := List.nil_subset _
  kept _ hk := hk
  cleared hk := absurd hk List.not_mem_nil

/-- What was tangled in the beginning still is, unless one of the objects is of a spent kind. -/
theorem Cleanup.Stage.refers {config : Config} {altered spent cleared : List Kind} {base b : Store}
    (h : Stage config altered spent cleared base b) {category : Category} {a k : Address}
    (htangles : category.Tangles a k) (hspent : ∀ kind ∈ category.tangled, kind ∉ spent)
    (hrefers : base.Refers a k) : b.Refers a k := by
  obtain ⟨ha, hk⟩ := htangles.mem_tangled
  have hobs := htangles.obstructs_iff.2 hrefers
  refine htangles.obstructs_iff.1 (h.thinned.still_obstructs hobs
    (fun hmem => htangles.untrimmed (h.trims hmem)) (h.kept (hspent _ ha) hrefers.stored) ?_)
  exact h.kept (hspent _ hk) hrefers.target_stored

namespace Plan

/-- Whether the categories find what they look for: objects that may be tangled are not deleted
before, and what has to be intact is not trimmed. -/
def spares (altered spent : List Kind) : List Plan.Step → Bool
  | [] => true
  | step :: rest =>
    step.category.tangled.all (· ∉ spent) && step.category.intact.all (· ∉ altered) &&
      spares (altered ++ step.category.altered) (spent ++ step.category.kinds) rest

/-- Whether the judged categories find nothing left of what has to go before them, where categories
are sure to remove only some of the kinds that they clear. -/
def prepares (judged : Category → Bool) (sure : Kind → Bool) (cleared : List Kind) :
    List Plan.Step → Bool
  | [] => true
  | step :: rest =>
    (!judged step.category || step.category.needs.all (· ∈ cleared)) &&
      prepares judged sure (cleared ++ step.category.clears.filter sure) rest

theorem standard_spares : spares [] [] standard.steps = true := by decide

theorem standard_prepares :
    prepares (· = .qosPolicies) (· ∈ Kind.leaves) [] standard.steps = true ∧
      prepares (fun _ => true) (fun _ => true) [] standard.steps = true := by decide

end Plan

namespace Sweep

variable {c : Sweep Store} {category : Category} {altered spent cleared : List Kind} {base : Store}
  {t t' : Trace Store}

section

variable (hb : c.backend = Store.backend true) (hwet : c.config.dryRun = false)
  (hauthority : c.authority = none)

include hb hwet hauthority

/-- A category that does not end with an error leads from stage to stage. -/
theorem sweepCategory_stage (h : Stage c.config altered spent cleared base t.backend)
    (hcalm : c.config.policies.of category = .isolate ∨
      mishaps true ((c.setting category).changes category t.backend) t.backend = [])
    (sure : Kind → Bool) (hsure : ∀ k : Address, sure k.kind = true →
      Fells ((c.setting category).changes category t.backend) k → (applyAll true
        ((c.setting category).changes category t.backend) t.backend).find? k = none) :
    ∃ report t', c.sweepCategory category t = (.ok report, t') ∧
      report.failures = mishaps true ((c.setting category).changes category t.backend) t.backend ∧
      Stage c.config (altered ++ category.altered) (spent ++ category.kinds)
        (cleared ++ category.clears.filter sure) base t'.backend := by
  have hs : (c.setting category).OnStore true := onStore hb hwet
  obtain ⟨report, t', hrun⟩ :=
    sweepCategory_calm hs h.typical.wellFormed h.typical.lists hcalm
  obtain ⟨hback, hfailures, -⟩ := sweepCategory_of_ok hs h.typical.wellFormed hrun
  refine ⟨report, t', hrun, hfailures, ?_⟩
  have hmild := mild_of_mem_changes hs h.typical.wellFormed
  have hthin := (Thinned.refl h.typical.wellFormed).applyAll (p := true) h.typical.wellFormed hmild
  refine {
    typical := hback ▸ h.typical.applyAll hmild
    thinned := (h.thinned.mono (List.subset_append_left _ _)).trans
      ((hback ▸ hthin).mono (List.subset_append_right _ _))
    trims := List.append_subset.2 ⟨h.trims, category.altered_subset⟩
    kept := fun hk hbase => ?_
    cleared := fun {k} hk => ?_ }
  · obtain ⟨hspent, hkinds⟩ := not_or.1 (mt List.mem_append.2 hk)
    have hleft := sweepCategory_keeps hs hkinds (h.kept hspent hbase)
    rwa [hrun] at hleft
  · rw [hback]
    rcases List.mem_append.1 hk with hk | hk
    · exact find?_applyAll_none (h.cleared hk)
    · obtain ⟨hclears, hsurely⟩ := List.mem_filter.1 hk
      by_cases hstored : t.backend.find? k = none
      · exact find?_applyAll_none hstored
      · exact hsure k hsurely (Setting.fells_cleared hs hauthority h.typical hstored hclears)

/-- A category that nothing is left for and in which nothing is tangled goes leaves first. -/
theorem stage_clean (h : Stage c.config altered spent cleared base t.backend)
    (hneeds : ∀ kind ∈ category.needs, kind ∈ cleared)
    (hserving : category = .dhcp → t.backend.ServesDhcp)
    (huntangled : ∀ a k, category.Tangles a k → ¬ t.backend.Obstructs a k) :
    let changes := (c.setting category).changes category t.backend
    mishaps true changes t.backend = [] ∧
      ∀ k, Fells changes k → (applyAll true changes t.backend).find? k = none := by
  have hs : (c.setting category).OnStore true := onStore hb hwet
  have hw := h.typical.wellFormed
  have hfirst : LeavesFirst t.backend (fun _ => False)
      ((c.setting category).changes category t.backend) :=
    Setting.leavesFirst_changes hs hauthority h.typical category
      (fun a ha => h.cleared (hneeds a.kind ha)) hserving huntangled
  exact hfirst.clean hw (.refl hw) h.typical.deletes (fun _ => False.elim)
    (mild_of_mem_changes hs hw) (reached_of_mem_changes hs hw)

/-- Whatever is tangled, a run whose other failures are isolated ends well, and reports it. -/
theorem runSteps_reports_tangles {steps : List Plan.Step}
    (hpolicies : ∀ category, c.config.policies.of category = category.defaultPolicy)
    (h : Stage c.config altered spent cleared base t.backend)
    (hspares : Plan.spares altered spent steps = true)
    (hprepares : Plan.prepares (· = .qosPolicies) (· ∈ Kind.leaves) cleared steps = true) :
    ∃ reports t', c.runSteps steps t = (.ok reports, t') ∧
      ((∀ part ∈ reports, part.failures = []) →
        ∀ step ∈ steps, ∀ a k, step.category.Tangles a k → ¬ base.Refers a k) := by
  induction steps generalizing altered spent cleared t with
  | nil => exact ⟨[], t, rfl, fun _ => List.forall_mem_nil _⟩
  | cons step steps ih =>
    simp only [Plan.spares, Plan.prepares, Bool.and_eq_true, List.all_eq_true] at hspares hprepares
    obtain ⟨⟨htangled, -⟩, hspares⟩ := hspares
    obtain ⟨hneeds, hprepares⟩ := hprepares
    have hs : (c.setting step.category).OnStore true := onStore hb hwet
    have hw := h.typical.wellFormed
    have hcalm : c.config.policies.of step.category = .isolate ∨ mishaps true
        ((c.setting step.category).changes step.category t.backend) t.backend = [] := by
      by_cases hqos : step.category = .qosPolicies
      · have hfound : ∀ kind ∈ step.category.needs, kind ∈ cleared := by
          simpa [hqos] using hneeds
        refine .inr (stage_clean hb hwet hauthority h hfound ?_ ?_).1
        · rw [hqos]
          nofun
        · rw [hqos]
          exact fun _ _ htangles => htangles.elim
      · refine .inl ((hpolicies _).trans ?_)
        revert hqos
        cases step.category <;> decide
    obtain ⟨report, t', hrun, hfailures, hstage⟩ := sweepCategory_stage hb hwet hauthority h hcalm
      (· ∈ Kind.leaves) fun k hk hfells => h.typical.leaf_removed (mild_of_mem_changes hs hw)
        (reached_of_mem_changes hs hw) (of_decide_eq_true hk) hfells
    obtain ⟨reports, t'', hrest, hreports⟩ := ih hstage hspares hprepares
    refine ⟨report :: reports, t'', by simp only [runSteps, hrun, hrest], fun hclean => ?_⟩
    obtain ⟨hfirst, hclean⟩ := List.forall_mem_cons.1 hclean
    refine List.forall_mem_cons.2 ⟨fun a k htangles hrefers => ?_, hreports hclean⟩
    have hstill := h.refers htangles (fun kind hkind => by simpa using htangled kind hkind) hrefers
    exact Setting.mishaps_of_tangle hs hauthority h.typical htangles hstill
      (hfailures.symm.trans hfirst)

/-- Where nothing is tangled, a run ends well and reports no failure. -/
theorem runSteps_untangled {steps : List Plan.Step}
    (h : Stage c.config altered spent cleared base t.backend) (hserving : base.ServesDhcp)
    (huntangled : ¬ base.Tangled) (hspares : Plan.spares altered spent steps = true)
    (hprepares : Plan.prepares (fun _ => true) (fun _ => true) cleared steps = true) :
    ∃ reports t', c.runSteps steps t = (.ok reports, t') ∧
      ∀ part ∈ reports, part.failures = [] := by
  induction steps generalizing altered spent cleared t with
  | nil => exact ⟨[], t, rfl, List.forall_mem_nil _⟩
  | cons step steps ih =>
    simp only [Plan.spares, Plan.prepares, Bool.and_eq_true, List.all_eq_true] at hspares hprepares
    obtain ⟨⟨-, hintact⟩, hspares⟩ := hspares
    obtain ⟨hneeds, hprepares⟩ := hprepares
    have hs : (c.setting step.category).OnStore true := onStore hb hwet
    have hw := h.typical.wellFormed
    obtain ⟨hnone, hfelled⟩ := stage_clean hb hwet hauthority h (by simpa using hneeds)
      (fun hdhcp => h.thinned.servesDhcp
        (by simpa using hintact .logicalPort (by rw [hdhcp]; decide)) hserving)
      fun a k htangles hobs => huntangled ⟨step.category, a, k, htangles,
        htangles.obstructs_iff.1 (h.thinned.obstructs hobs)⟩
    obtain ⟨report, t', hrun, hfailures, hstage⟩ :=
      sweepCategory_stage hb hwet hauthority h (.inr hnone) (fun _ => true) fun k _ => hfelled k
    obtain ⟨reports, t'', hrest, hreports⟩ := ih hstage hspares hprepares
    exact ⟨report :: reports, t'', by simp only [runSteps, hrun, hrest],
      List.forall_mem_cons.2 ⟨hfailures.trans hnone, hreports⟩⟩

end

/-- A whole cleanup of a typical store, in which all logical ports serve DHCP, ends well.  It
reports no failure if and only if nothing is tangled: no gateway policy refers to a group, and
nothing inside a port, segment or router refers to an earlier port, segment or router. -/
theorem clean_iff_untangled (config : Config) (hwet : config.dryRun = false)
    (hpolicies : ∀ category, config.policies.of category = category.defaultPolicy)
    {t : Trace Store} (h : Typical config t.backend) (hserving : t.backend.ServesDhcp) :
    ∃ report, ((standard (Store.backend true) none config).sweepAll t).1 = .ok report ∧
      ((∀ part ∈ report.categories, part.failures = []) ↔ ¬ t.backend.Tangled) := by
  let c := standard (Store.backend true) none config
  have hstage : Stage c.config [] [] [] t.backend (noted c.starting t).backend := .start h
  obtain ⟨reports, t', hrun, htangles⟩ := runSteps_reports_tangles (c := c) rfl hwet rfl
    hpolicies hstage Plan.standard_spares Plan.standard_prepares.1
  refine ⟨{ dryRun := config.dryRun, categories := reports }, ?_, fun hclean => ?_, fun hfree => ?_⟩
  · have hsteps : c.runSteps c.plan.steps (noted c.starting t) = (.ok reports, t') := hrun
    show (c.sweepAll t).1 = _
    rw [sweepAll, hsteps]
    rfl
  · rintro ⟨category, a, k, hcategory, hrefers⟩
    obtain ⟨step, hstep, rfl⟩ := Plan.mem_standard category
    exact htangles hclean step hstep a k hcategory hrefers
  · obtain ⟨reports', t'', hrun', hclean⟩ := runSteps_untangled (c := c) rfl hwet rfl hstage
      hserving hfree Plan.standard_spares Plan.standard_prepares.2
    obtain rfl := Except.ok.inj (Prod.mk.inj (hrun.symm.trans hrun')).1
    exact hclean

def guardingPolicy : Resource :=
  ((Resource.owned "policy").withTag { scope := routerScope, tag := "ours" }).withField "group"
    (.string "/infra/domains/default/groups/g")

def guarded : Store :=
  let group : Address := { kind := .group, parents := ["default"], id := "g" }
  let policy : Address := { kind := .gatewayPolicy, parents := ["default"], id := "policy" }
  let router : Address := { kind := .tier1, parents := [], id := "ours" }
  { Store.empty with
    objects :=
      [(group, complete group (.owned "g")),
       (policy, complete policy guardingPolicy),
       (router, complete router (.owned "ours"))] }

theorem guarded_filled : guarded.Filled :=
  Filled.empty.insertAll
    [(.group, ["default"], .owned "g"), (.gatewayPolicy, ["default"], guardingPolicy),
      (.tier1, [], .owned "ours")]
    (by decide) rfl

theorem guarded_typical : Typical .default guarded := by
  have hall : ∀ o ∈ guarded.objects, o.2.hasTag Config.default.marker = true ∧
      (o.1.kind.inDomain = true → o.1.parents = [Config.default.domain]) ∧
      o.1.kind.parent? = none := by decide
  have hpairs : ∀ o ∈ guarded.objects, ∀ o' ∈ guarded.objects,
      o.2.mentions (handle o'.1.kind o'.1.id o'.2) = true → o.1 ≠ o'.1 →
        o'.1.kind ∈ o.1.kind.dependencies := by decide
  have hstored : ∀ {k}, guarded.find? k ≠ none → ∃ r, (k, r) ∈ guarded.objects := fun hk => by
    obtain ⟨r, hr⟩ := Option.ne_none_iff_exists'.1 hk
    exact ⟨r, Assoc.mem_of_find? hr⟩
  refine {
    wellFormed := guarded_filled.wellFormed
    deletes := rfl
    lists := rfl
    marked := fun hr => (hall _ (Assoc.mem_of_find? hr)).1
    placed := fun hk => ?_
    housed := fun inner hinner hplace => ?_
    typed := fun ⟨ra, rk, hra, hrk, hmentions⟩ =>
      hpairs _ (Assoc.mem_of_find? hra) _ (Assoc.mem_of_find? hrk) hmentions }
  · obtain ⟨r, hmem⟩ := hstored hk
    exact (hall _ hmem).2.1
  · obtain ⟨r, hmem⟩ := hstored hinner
    rw [(hall _ hmem).2.2] at hplace
    cases hplace

/-- The group is to go first, when the policy that refers to it is still there. -/
theorem guarded_group_refused :
    let c := standard (Store.backend true) none .default
    let outcome := (c.sweepAll (.start guarded)).1
    (outcome.toOption.map fun report => report.categories.flatMap Report.Section.failures) =
        some [{ kind := .group, id := "g"
                message := "group g is in use: referenced by gateway_policy policy" }] ∧
      ∃ report, outcome = .ok report ∧
        ((∀ part ∈ report.categories, part.failures = []) ↔ ¬ guarded.Tangled) := by
  have hserving : (Trace.start guarded).backend.ServesDhcp := fun {k r} hr hkind => by
    have hnone : ∀ o ∈ guarded.objects, o.1.kind ≠ .logicalPort := by decide
    exact absurd hkind (hnone _ (Assoc.mem_of_find? hr))
  have htypical : Typical .default (Trace.start guarded).backend := guarded_typical
  have hpolicies : ∀ category, Config.default.policies.of category = category.defaultPolicy :=
    fun category => by cases category <;> rfl
  have hiff := clean_iff_untangled .default rfl hpolicies htypical hserving
  exact ⟨by decide +kernel, hiff⟩

end Sweep

end NetSweep
