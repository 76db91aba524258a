import NetSweep.Proofs.Candidates
import NetSweep.Proofs.NarrowerRuns
import NetSweep.Proofs.NothingDangling

/-!
# Complete runs

A category that reports no failure has removed all its candidates.  Later categories add none, so
a whole run without failures leaves no candidates at all, and without candidates a category asks
for nothing.  The same run once more is then idle.
-/

namespace NetSweep

open Cleanup Store

theorem Category.altered_subset (category : Category) :
    category.altered ⊆ [.segment, .logicalPort] := by
  cases category <;> decide

theorem Category.steady_spared (category : Category) :
    ∀ kind ∈ category.steady, kind ∉ [Kind.segment, .logicalPort] := by
  cases category <;> decide

theorem Plan.mem_standard (category : Category) :
    ∃ step ∈ standard.steps, step.category = category := by
  cases category <;> decide

namespace Store

variable {p : Bool} {s : Store} {k : Address}

/-- No delete is made to answer that the object is not there. -/
def Sincere (s : Store) : Prop :=
  ∀ key e, Assoc.find? key s.deleteFailures = some e → e.isNotFound = false

theorem Sincere.of_none (h : s.deleteFailures = []) : s.Sincere := by
  intro key e he
  rw [h] at he
  cases he

theorem Sincere.of_failures {t : Store} (h : s.Sincere) (hsame : t.failures = s.failures) :
    t.Sincere := by
  have hdeletes : t.deleteFailures = s.deleteFailures := congrArg Prod.fst hsame
  intro key e he
  rw [hdeletes] at he
  exact h key e he

/-- Where refusals are sincere, a delete that is no failure leaves nothing behind. -/
theorem gone_of_mishap?_none (hsincere : s.Sincere)
    (hreach : requireAccess p k.kind k.parents = .ok ())
    (h : (Change.delete .owned k).mishap? p s = none) :
    ((Change.delete .owned k).apply p s).find? k = none := by
  cases hr : s.find? k with
  | none => exact find?_apply_none hr
  | some r =>
    cases ho : s.obstacle? k r with
    | none => simp [Change.apply, delete_of_obstacle?_none hreach hr ho, find?]
    | some e =>
      -- an obstacle that nobody arranged is a use of the object
      have hthere : e.isNotFound = false := by
        unfold obstacle? at ho
        split at ho
        · rename_i e' he'
          obtain rfl := Option.some.inj ho
          exact hsincere _ _ he'
        · split at ho
          · exact (Option.some.inj ho) ▸ rfl
          · split at ho
            · exact (Option.some.inj ho) ▸ rfl
            · cases ho
      simp [Change.mishap?, Store.delete, hreach, hr, ho, Attempt.failure?, hthere] at h

/-- What changes hand over and leave behind, they report. -/
theorem mishap_of_left {cs : List Change} (hsincere : s.Sincere)
    (hreach : ∀ c ∈ cs, requireAccess p c.target.kind c.target.parents = .ok ())
    (hmem : .delete .owned k ∈ cs) (hleft : (Change.applyAll p cs s).find? k ≠ none) :
    ∃ f ∈ mishaps p cs s, f.Names k := by
  induction cs generalizing s with
  | nil => cases hmem
  | cons c cs ih =>
    obtain ⟨hreachc, hreach⟩ := List.forall_mem_cons.1 hreach
    rcases List.mem_cons.1 hmem with rfl | hmem
    · cases hmishap : (Change.delete .owned k).mishap? p s with
      | none =>
        have hgone := gone_of_mishap?_none hsincere hreachc hmishap
        exact absurd (find?_applyAll_none hgone) hleft
      | some f =>
        exact ⟨f, List.mem_append_left _ (by simp [hmishap]), Attempt.names_of_failure? hmishap⟩
    · have hsincere' := hsincere.of_failures (failures_apply p c s)
      obtain ⟨f, hf, hnames⟩ := ih hsincere' hreach hmem hleft
      exact ⟨f, List.mem_append_right _ hf, hnames⟩

/-- Changes that report no failure have removed all that they hand over. -/
theorem gone_of_mishaps_nil {cs : List Change} (hfail : s.deleteFailures = [])
    (hreach : ∀ c ∈ cs, requireAccess p c.target.kind c.target.parents = .ok ())
    (h : mishaps p cs s = []) (hmem : .delete .owned k ∈ cs) :
    (Change.applyAll p cs s).find? k = none := by
  by_contra hleft
  obtain ⟨f, hf, -⟩ := mishap_of_left (.of_none hfail) hreach hmem hleft
  rw [h] at hf
  cases hf

end Store

namespace Cleanup.Setting

variable {p : Bool} {b : Store} {k : Address} {kind : Kind} {parents : List String}

/-! ## Candidates and changes -/

section

variable {s : Setting Store} (hs : s.OnStore p) (hw : b.WellFormed)

include hs hw

theorem stored_of_mem_addresses (haccess : requireAccess p kind parents = .ok ())
    {found : List Resource} (hfound : found ⊆ s.seen kind parents b)
    (hk : k ∈ addresses kind parents found) : b.find? k ≠ none := by
  obtain ⟨r, hr, rfl⟩ := List.mem_map.1 hk
  simp [hs.find?_of_mem_seen hw haccess (hfound hr)]

theorem stored_of_mem_candidates {category : Category} (hk : k ∈ s.candidates category b) :
    b.find? k ≠ none := by
  have howned : ∀ {kind parents rules}, requireAccess p kind parents = .ok () →
      k ∈ addresses kind parents (s.seenOwned kind parents rules b) → b.find? k ≠ none :=
    fun haccess hk => stored_of_mem_addresses hs hw haccess List.filter_sublist.subset hk
  cases category with
  | securityGroups =>
    rcases List.mem_append.1 hk with hk | hk
    · exact howned (requireAccess_of_policy rfl rfl) hk
    · exact howned (requireAccess_of_policy rfl rfl) hk
  | segmentInterfaces =>
    obtain ⟨router, -, hk⟩ := List.mem_flatMap.1 hk
    obtain ⟨service, -, hk⟩ := List.mem_flatMap.1 hk
    have haccess : requireAccess p .tier1SegmentInterface [router.id, service.id] = .ok () :=
      requireAccess_of_policy rfl rfl
    exact stored_of_mem_addresses hs hw haccess (List.Subset.refl _) hk
  | segments =>
    obtain ⟨segment, hsegment, hk⟩ := List.mem_flatMap.1 hk
    rcases List.mem_append.1 hk with hk | hk
    · exact howned (requireAccess_of_policy rfl rfl) hk
    · obtain rfl := List.mem_singleton.1 hk
      exact howned (requireAccess_of_policy rfl rfl) (List.mem_map_of_mem hsegment)
  | qosPolicies => exact howned (requireAccess_of_policy rfl rfl) hk
  | loadBalancers =>
    obtain ⟨kind, hkind, hk⟩ := List.mem_flatMap.1 hk
    obtain ⟨hapi, hcount⟩ := loadBalancerKinds_spec kind hkind
    exact howned (requireAccess_of_policy hapi (by simp [hcount])) hk
  | dhcp =>
    rw [candidates] at hk
    split at hk
    · rename_i hpass
      obtain rfl : p = true := hs.allowsPassthrough.symm.trans hpass
      rcases List.mem_append.1 hk with hk | hk
      · exact howned (requireAccess_of_passthrough rfl)
          (addresses_subset (List.filter_subset_self _) hk)
      · exact howned (requireAccess_of_passthrough rfl) hk
    · cases hk
  | tier1Routers => exact howned (requireAccess_of_policy rfl rfl) hk

end

/-- Without candidates a category asks for nothing, not even for what only serves candidates. -/
theorem changes_eq_nil {σ : Type} (s : Setting σ) {b : σ}
    (h : ∀ category, s.candidates category b = []) (category : Category) :
    s.changes category b = [] := by
  have hempty : ∀ {kind parents found}, addresses kind parents found = [] → found = [] :=
    List.map_eq_nil_iff.1
  have hsegments : s.seenOwned .segment [] [.id .networks] b = [] := by
    refine List.eq_nil_iff_forall_not_mem.2 fun segment hsegment => ?_
    have hpart := List.flatMap_eq_nil_iff.1 (h .segments) segment hsegment
    exact List.cons_ne_nil _ _ (List.append_eq_nil_iff.1 hpart).2
  have hbalancers : ∀ kind ∈ loadBalancerKinds, s.seenOwned kind [] [] b = [] := fun kind hkind =>
    hempty (List.flatMap_eq_nil_iff.1 (h .loadBalancers) kind hkind)
  have hrouters := hempty (h .tier1Routers)
  cases category with
  | securityGroups =>
    obtain ⟨hmaps, hgroups⟩ := List.append_eq_nil_iff.1 (h .securityGroups)
    rw [changes, clearing, clearing, hempty hmaps, hempty hgroups]
    rfl
  | segmentInterfaces =>
    rw [changes, hsegments, hrouters]
    rfl
  | segments =>
    rw [changes, hsegments]
    rfl
  | qosPolicies =>
    rw [changes, clearing, hempty (h .qosPolicies)]
    rfl
  | loadBalancers =>
    rw [changes, hbalancers .lbService (by decide), List.flatMap_nil, List.nil_append]
    refine List.flatMap_eq_nil_iff.2 fun kind hkind => ?_
    rw [clearing, hbalancers kind hkind]
    rfl
  | dhcp =>
    have hdhcp := h .dhcp
    rw [candidates] at hdhcp
    rw [changes]
    split
    · rename_i hpass
      rw [if_pos hpass] at hdhcp
      obtain ⟨hports, hservers⟩ := List.append_eq_nil_iff.1 hdhcp
      have hnone : ((s.seenOwned .logicalPort [] [.attachmentId .dhcpServiceBindings] b).flatMap
          servicePortRemoval) = [] := by
        refine List.flatMap_eq_nil_iff.2 fun port hport => ?_
        have hother := List.filter_eq_nil_iff.1 (hempty hports) port hport
        rw [servicePortRemoval]
        exact if_neg (by simpa using hother)
      rw [hnone, clearing, hempty hservers]
      rfl
    · rfl
  | tier1Routers =>
    rw [changes, hrouters]
    rfl

end Cleanup.Setting

namespace Cleanup

theorem attempts_of_no_change {events : List Event} (h : events.filterMap Event.change? = []) :
    events.filterMap Event.attempt? = [] := by
  refine List.filterMap_eq_nil_iff.2 fun event hevent => ?_
  have hnone := List.filterMap_eq_nil_iff.1 h event hevent
  rcases event with _ | _ | ⟨role, target, _ | answer⟩ | _
  · rfl
  · rfl
  · cases role <;> rfl
  · cases hnone
  · rfl

end Cleanup

namespace Sweep

variable {c : Sweep Store} {p : Bool} {category : Category} {t t' : Trace Store}

section

variable (hb : c.backend = Store.backend p) (hwet : c.config.dryRun = false)

include hb hwet

/-! ## A run without failures -/

/-- What a category without failures leaves, and that its candidates are gone. -/
theorem sweepCategory_clean (hw : t.backend.WellFormed) (hfail : t.backend.deleteFailures = [])
    {report : Report.Section} (hrun : c.sweepCategory category t = (.ok report, t'))
    (hclean : report.failures = []) :
    Thinned category.altered t.backend t'.backend ∧ t'.backend.failures = t.backend.failures ∧
      ∀ k ∈ (c.setting category).candidates category t.backend, t'.backend.find? k = none := by
  have hs : (c.setting category).OnStore p := onStore hb hwet
  obtain ⟨hthin, hsame⟩ := sweepCategory_thins hs hw hrun
  obtain ⟨hback, hfailures, -⟩ := sweepCategory_of_ok hs hw hrun
  refine ⟨hthin, hsame, fun k hk => ?_⟩
  rw [hback]
  exact gone_of_mishaps_nil hfail (reached_of_mem_changes hs hw) (hfailures.symm.trans hclean)
    (Setting.mem_candidates.1 hk)

omit hb hwet in
/-- Which policy a category runs under makes no difference to its candidates. -/
theorem candidates_setting (other : Category) (b : Store) :
    (c.setting other).candidates category b = (c.setting category).candidates category b := by
  cases category <;> rfl

/-- A run without failures leaves none of its categories a candidate. -/
theorem runSteps_exhausts {steps : List Plan.Step} (hw : t.backend.WellFormed)
    (hfail : t.backend.deleteFailures = []) (hlists : t.backend.listFailures = [])
    {reports : List Report.Section} (hok : (c.runSteps steps t).1 = .ok reports)
    (hclean : ∀ report ∈ reports, report.failures = []) :
    Thinned [.segment, .logicalPort] t.backend (c.runSteps steps t).2.backend ∧
      (c.runSteps steps t).2.backend.failures = t.backend.failures ∧
      ∀ step ∈ steps, (c.setting step.category).candidates step.category
        (c.runSteps steps t).2.backend = [] := by
  induction steps generalizing t reports with
  | nil => exact ⟨.refl hw, rfl, List.forall_mem_nil _⟩
  | cons step steps ih =>
    obtain ⟨report, t', later, hstep, hrest, rfl⟩ := runSteps_cons_ok hok
    obtain ⟨hclean₁, hclean⟩ := List.forall_mem_cons.1 hclean
    obtain ⟨hthin₁, hsame₁, hgone⟩ := sweepCategory_clean hb hwet hw hfail hstep hclean₁
    have hw' := hthin₁.wellFormed hw
    have hfail' : t'.backend.deleteFailures = [] := (congrArg (·.1) hsame₁).trans hfail
    have hlists' : t'.backend.listFailures = [] := (congrArg (·.2.2) hsame₁).trans hlists
    obtain ⟨hthin, hsame, hlater⟩ := ih hw' hfail' hlists' hrest hclean
    rw [runSteps_of_ok hstep]
    have hthin' : Thinned [.segment, .logicalPort] t.backend (c.runSteps steps t').2.backend :=
      (hthin₁.mono step.category.altered_subset).trans hthin
    refine ⟨hthin', hsame.trans hsame₁, List.forall_mem_cons.2 ⟨?_, hlater⟩⟩
    -- what would still be a candidate was one before, and is gone
    have hs : (c.setting step.category).OnStore p := onStore hb hwet
    refine List.eq_nil_iff_forall_not_mem.2 fun k hk => ?_
    have hbefore := Setting.candidates_subset hs hw hthin' (congrArg (·.2.2) (hsame.trans hsame₁))
      step.category step.category.steady_spared hk
    exact Setting.stored_of_mem_candidates hs (hthin'.wellFormed hw) hk
      (hthin.find?_none (hgone k hbefore))

/-! ## A run without candidates -/

theorem sweepCategory_idle (category : Category) (hw : t.backend.WellFormed)
    (hlists : t.backend.listFailures = [])
    (hnone : ∀ category, (c.setting category).candidates category t.backend = []) :
    ∃ report t', c.sweepCategory category t = (.ok report, t') ∧ report.candidates = 0 ∧
      t'.backend = t.backend ∧
      ∃ events, t'.journal = t.journal ++ events ∧ events.filterMap Event.change? = [] := by
  have hs : (c.setting category).OnStore p := onStore hb hwet
  have hchanges : (c.setting category).changes category t.backend = [] :=
    (c.setting category).changes_eq_nil (fun other => candidates_setting category t.backend ▸
      hnone other) category
  obtain ⟨report, t', hrun⟩ := sweepCategory_calm hs hw hlists (.inr (by rw [hchanges]; rfl))
  obtain ⟨hback, -, events, hjournal, hasked, -⟩ := sweepCategory_of_ok hs hw hrun
  rw [hchanges] at hback hasked
  have hnothing := List.sublist_nil.1 hasked
  refine ⟨report, t', hrun, ?_, hback, events, hjournal, hnothing⟩
  have haccounts := sweepCategory_accounts hwet (congrArg Prod.fst hrun)
  rw [haccounts.candidates, eventsOf_eq (by rw [hrun]; exact hjournal),
    attempts_of_no_change hnothing]
  rfl

theorem runSteps_idle (steps : List Plan.Step) (hw : t.backend.WellFormed)
    (hlists : t.backend.listFailures = [])
    (hnone : ∀ category, (c.setting category).candidates category t.backend = []) :
    ∃ reports t', c.runSteps steps t = (.ok reports, t') ∧
      (∀ report ∈ reports, report.candidates = 0) ∧ t'.backend = t.backend ∧
      ∃ events, t'.journal = t.journal ++ events ∧ events.filterMap Event.change? = [] := by
  induction steps generalizing t with
  | nil => exact ⟨[], t, rfl, List.forall_mem_nil _, rfl, [], (List.append_nil _).symm, rfl⟩
  | cons step steps ih =>
    obtain ⟨report, t', hstep, hzero, hback, events, hjournal, hasked⟩ :=
      sweepCategory_idle hb hwet step.category hw hlists hnone
    rw [← hback] at hw hlists hnone
    obtain ⟨reports, t'', hrest, hzeros, hback', events', hjournal', hasked'⟩ :=
      ih hw hlists hnone
    refine ⟨report :: reports, t'', ?_, List.forall_mem_cons.2 ⟨hzero, hzeros⟩,
      hback'.trans hback, events ++ events', ?_, ?_⟩
    · simp only [runSteps, hstep, hrest]
    · rw [hjournal', hjournal, List.append_assoc]
    · rw [List.filterMap_append, hasked, hasked', List.append_nil]

end

/-- A clean run is complete.  Where neither deletes nor lists are made to fail, a whole cleanup
that reports no failure has left nothing to clean up: the same cleanup once more ends well, finds no
candidates, asks for no change, and leaves the store as it is. -/
theorem clean_run_is_complete (p : Bool) (authority : Option Knowledge) (config : Config)
    (hwet : config.dryRun = false) {t : Trace Store} (hfilled : t.backend.Filled)
    (hfail : t.backend.deleteFailures = []) (hlists : t.backend.listFailures = [])
    {report : Report} :
    let c := standard (Store.backend p) authority config
    let t' := (c.sweepAll t).2
    (c.sweepAll t).1 = .ok report → (∀ part ∈ report.categories, part.failures = []) →
      ∃ report', (c.sweepAll t').1 = .ok report' ∧
        (∀ part ∈ report'.categories, part.candidates = 0) ∧
        changesSince t' (c.sweepAll t').2 = [] ∧ (c.sweepAll t').2.backend = t'.backend := by
  intro c t' hok hclean
  have hw : (noted c.starting t).backend.WellFormed := hfilled.wellFormed
  obtain ⟨hthin, hsame, hexhausted⟩ :=
    runSteps_exhausts (c := c) rfl hwet hw hfail hlists (sweepAll_ok hok) hclean
  rw [← sweepAll_backend] at hthin hsame hexhausted
  have hw' : t'.backend.WellFormed := hthin.wellFormed hw
  have hlists' : t'.backend.listFailures = [] := (congrArg (·.2.2) hsame).trans hlists
  have hnone : ∀ category, (c.setting category).candidates category t'.backend = [] := by
    intro category
    obtain ⟨step, hstep, rfl⟩ := Plan.mem_standard category
    exact hexhausted step hstep
  obtain ⟨reports, t'', hrun, hzero, hback, events, hjournal, hasked⟩ :=
    runSteps_idle (c := c) (t := noted c.starting t') rfl hwet c.plan.steps hw' hlists' hnone
  have hsweep : c.sweepAll t' = (.ok { dryRun := config.dryRun, categories := reports },
      noted (finished { dryRun := config.dryRun, categories := reports }) t'') := by
    rw [sweepAll, hrun]
    rfl
  refine ⟨_, by rw [hsweep], hzero, ?_, by rw [hsweep]; exact hback⟩
  have hadded : (c.sweepAll t').2.journal = t'.journal ++ events := by
    rw [hsweep]
    exact hjournal
  rw [changesSince, hadded, List.drop_left, hasked]

/-- The router of the shared store goes with its rule, and the next run finds nothing to do. -/
theorem shared_store_is_swept_once :
    let c := standard (Store.backend true) none .default
    let t' := (c.sweepAll (.start shared)).2
    t'.backend.deleted = [(.group, "g"), (.tier1NatRule, "rule"), (.tier1, "ours")] ∧
      ∃ report, (c.sweepAll t').1 = .ok report ∧
        (∀ part ∈ report.categories, part.candidates = 0) ∧
        changesSince t' (c.sweepAll t').2 = [] ∧ (c.sweepAll t').2.backend = t'.backend := by
  let outcome (category : Category) : Report.Section :=
    if category = .tier1Routers then
      { Report.Section.fresh category with candidates := 1, deleted := 1 }
    else .fresh category
  have hok : ((standard (Store.backend true) none .default).sweepAll (.start shared)).1 =
      .ok { dryRun := false, categories := Category.all.map outcome } := by decide +kernel
  have hclean : ∀ part ∈ Category.all.map outcome, part.failures = [] := by decide
  have hfilled : (Trace.start shared).backend.Filled := shared_filled
  have hagain := clean_run_is_complete true none .default rfl hfilled rfl rfl hok hclean
  exact ⟨by decide +kernel, hagain⟩

end Sweep

end NetSweep
