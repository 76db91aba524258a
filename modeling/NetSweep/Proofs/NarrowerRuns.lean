import NetSweep.Proofs.CoveredChanges

/-!
# Narrower runs keep more

Two runs of a plan start from the same objects.  The run with the wider authority and fewer
arranged failures is ahead of the other after every category, so whatever it leaves, the other
leaves too.
-/

namespace NetSweep

open Cleanup Store

/-! ## The kinds that a category deletes -/

namespace Cleanup

variable {s : Setting Store} {p : Bool}

/-- A task keeps what none of its changes deletes. -/
theorem Does.keeps {t : Task Store Unit} {cs : List Change} {k : Address}
    (ht : ∀ b, Does s p b t cs) (hcs : ∀ role, .delete role k ∉ cs) :
    Task.Keeps (fun r => r.backend.find? k ≠ none) t := by
  intro r hr hgone
  obtain ⟨o, ho⟩ := Option.ne_none_iff_exists'.1 hr
  have hdone : ∃ done : List Change, done ⊆ cs ∧
      (t r).2.backend = Change.applyAll p done r.backend := by
    rcases ht _ r rfl with ⟨r', hrun, hcarried⟩ | ⟨-, e, r', done, hrun, hdone, hb⟩
    · exact ⟨cs, List.Subset.refl cs, by rw [hrun, hcarried.backend]⟩
    · exact ⟨done, hdone.subset, by rw [hrun, hb]⟩
  obtain ⟨done, hsub, hb⟩ := hdone
  rw [hb] at hgone
  obtain ⟨role, hmem⟩ := delete_mem_of_removed ho hgone
  exact hcs role (hsub hmem)

/-- The steps of a category keep every object of a kind that the standard plan does not give it. -/
theorem Setting.OnStore.other_kinds_kept (hs : s.OnStore p) {category : Category} {k : Address}
    (hk : k.kind ∉ category.kinds) : s.StepsKeep category fun r => r.backend.find? k ≠ none where
  note _ _ h := h
  skip _ _ _ h := h
  list _ _ _ _ h := by rwa [hs.askList_apply]
  search _ _ _ _ h := by rwa [hs.askSearch_apply]
  deleteOwned kind _ _ hkind _ := Does.keeps (fun _ => hs.does_deleteOwned) fun role hmem => by
    cases List.mem_singleton.1 hmem
    exact hk hkind
  deleteAuxiliary kind _ _ hkind _ :=
    Does.keeps (fun _ => hs.does_deleteAuxiliary) fun role hmem => by
      cases List.mem_singleton.1 hmem
      exact hk hkind
  deleteShared kind _ _ hkind _ := Does.keeps (fun _ => hs.does_deleteShared) fun role hmem => by
    cases List.mem_singleton.1 hmem
    exact hk hkind
  update _ _ _ _ _ _ := Does.keeps (fun _ => hs.does_update) fun role hmem => by
    cases List.mem_singleton.1 hmem

end Cleanup

theorem Sweep.sweepCategory_keeps {c : Sweep Store} {p : Bool} {category : Category}
    (hs : (c.setting category).OnStore p) {k : Address} (hk : k.kind ∉ category.kinds)
    {t : Trace Store} (ht : t.backend.find? k ≠ none) :
    (c.sweepCategory category t).2.backend.find? k ≠ none := by
  exact sweepCategory_preserves (P := fun _ (b : Store) => b.find? k ≠ none)
    (hs.other_kinds_kept hk) ht

/-! ## A run ahead of another -/

/-- The second store is ahead of the first in a run.  Only kinds in `altered` have been trimmed,
and of the kinds in `level` neither store has lost more than the other. -/
structure Store.Ahead (altered level : List Kind) (domain : String) (a b : Store) : Prop where
  remains : Remains altered domain a b
  wellFormed : a.WellFormed
  laxer : Laxer a b
  answers : a.listFailures = []
  level : ∀ k : Address, k.kind ∈ level → a.find? k ≠ none → b.find? k ≠ none

theorem Store.Ahead.start {altered level : List Kind} {domain : String} {a b : Store}
    (ha : a.WellFormed) (hobjects : a.objects = b.objects) (hlax : Laxer a b)
    (hlist : a.listFailures = []) (hlist' : b.listFailures = []) :
    Ahead altered level domain a b where
  remains :=
    { thinned := .of_objects ha hobjects.symm
      listFailures := hlist'.trans hlist.symm
      hollow := fun hout hgone => absurd (by rwa [find?, hobjects]) hout
      elsewhere := fun _ _ => by rw [find?, find?, hobjects] }
  wellFormed := ha
  laxer := hlax
  answers := hlist
  level _ _ hk := by rwa [find?, ← hobjects]

/-- Whether the categories of the steps find intact what they rely on, where kinds in `altered`
may be trimmed before and of the kinds in `level` alone nothing is deleted before. -/
def Plan.orderly (altered level : List Kind) : List Plan.Step → Bool
  | [] => true
  | step :: rest =>
    step.category.intact.all (· ∉ altered) && step.category.heads.all (· ∈ level) &&
      orderly (altered ++ step.category.altered) (level.filter (· ∉ step.category.kinds)) rest

theorem Plan.standard_orderly :
    orderly [] [.segment, .lbService, .tier1] standard.steps = true := by decide

namespace Sweep

def under {σ : Type} (c : Sweep σ) (authority : Option Knowledge) : Sweep σ :=
  { c with authority }

variable {c : Sweep Store} {p : Bool} {wide : Option Knowledge} {altered level : List Kind}
  {ta tb : Trace Store}

section

variable (hb : c.backend = Store.backend p) (hdry : c.config.dryRun = false)
  (hisolate : ∀ category, c.config.policies.of category = .isolate)
  (hwide : Knowledge.Within c.authority wide)

include hb hdry hisolate hwide

/-- A category keeps the run with the wider authority ahead. -/
theorem sweepCategory_ahead {category : Category}
    (h : Ahead altered level c.config.domain ta.backend tb.backend)
    (hintact : ∀ kind ∈ category.intact, kind ∉ altered)
    (hheads : ∀ kind ∈ category.heads, kind ∈ level) :
    ∃ report ta' report' tb', c.sweepCategory category ta = (.ok report, ta') ∧
      (c.under wide).sweepCategory category tb = (.ok report', tb') ∧
      Ahead (altered ++ category.altered) (level.filter (· ∉ category.kinds)) c.config.domain
        ta'.backend tb'.backend := by
  have hs : (c.setting category).OnStore p := onStore hb hdry
  have hs' : ((c.under wide).setting category).OnStore p := onStore hb hdry
  have hwb := h.remains.thinned.wellFormed h.wellFormed
  obtain ⟨report, ta', hrun, hta⟩ :=
    sweepCategory_isolated hs h.wellFormed (hisolate category) h.answers
  obtain ⟨report', tb', hrun', htb⟩ :=
    sweepCategory_isolated hs' hwb (hisolate category) (h.remains.listFailures.trans h.answers)
  refine ⟨report, ta', report', tb', hrun, hrun', ?_⟩
  rw [hta, htb]
  have hmild := fun ch hch => (mild_of_mem_changes hs h.wellFormed ch hch).mono
    (List.subset_append_right altered category.altered)
  have hmild' := fun ch hch => (mild_of_mem_changes hs' hwb ch hch).mono
    (List.subset_append_right altered category.altered)
  have hcovered : Covered tb.backend ((c.setting category).changes category ta.backend)
      (((c.under wide).setting category).changes category tb.backend) :=
    Setting.covered_changes hs h.remains h.wellFormed hwide category hintact
      fun kind hkind k hk => h.level k (hk ▸ hheads kind hkind)
  have hremains := h.remains.mono (List.subset_append_left altered category.altered)
  have hpresent : ∀ k, (tb.backend.find? k).isSome = false → tb.backend.find? k = none :=
    fun _ hk => Option.not_isSome_iff_eq_none.1 (by simp [hk])
  exact {
    remains := hremains.lockstep h.wellFormed h.laxer hpresent hmild hmild' hcovered
    wellFormed := ((Thinned.refl h.wellFormed).applyAll h.wellFormed hmild).wellFormed h.wellFormed
    laxer := h.laxer.applyAll p _ _
    answers := (congrArg (·.2.2) (failures_applyAll p _ ta.backend)).trans h.answers
    -- what has now been deleted in the second store belongs to the category's kinds
    level := fun k hk hleft => by
      obtain ⟨hlevel, hspared⟩ := List.mem_filter.1 hk
      have hka : ta.backend.find? k ≠ none := fun hnone => hleft (find?_applyAll_none hnone)
      have hkept := sweepCategory_keeps hs' (of_decide_eq_true hspared) (h.level k hlevel hka)
      rwa [hrun', htb] at hkept }

/-- So do all categories of an orderly plan, one after another. -/
theorem runSteps_ahead {steps : List Plan.Step}
    (h : Ahead altered level c.config.domain ta.backend tb.backend)
    (horderly : Plan.orderly altered level steps = true) :
    ∃ altered level, Ahead altered level c.config.domain (c.runSteps steps ta).2.backend
      ((c.under wide).runSteps steps tb).2.backend := by
  induction steps generalizing altered level ta tb with
  | nil => exact ⟨altered, level, h⟩
  | cons step steps ih =>
    simp only [Plan.orderly, Bool.and_eq_true, List.all_eq_true, decide_eq_true_eq] at horderly
    obtain ⟨⟨hintact, hheads⟩, hrest⟩ := horderly
    obtain ⟨report, ta', report', tb', hrun, hrun', hahead⟩ :=
      sweepCategory_ahead hb hdry hisolate hwide h hintact hheads
    obtain ⟨altered', level', hdone⟩ := ih hahead hrest
    exact ⟨altered', level', by rwa [runSteps_of_ok hrun, runSteps_of_ok hrun']⟩

theorem sweepAll_ahead (horderly : Plan.orderly altered level c.plan.steps = true)
    (h : Ahead altered level c.config.domain ta.backend tb.backend) :
    ∃ altered level, Ahead altered level c.config.domain (c.sweepAll ta).2.backend
      ((c.under wide).sweepAll tb).2.backend := by
  rw [sweepAll_backend, sweepAll_backend]
  exact runSteps_ahead hb hdry hisolate hwide h horderly

end

/-- Whatever a whole cleanup leaves, a cleanup that knows less and that is refused more leaves,
and has trimmed no more. -/
theorem narrower_run_keeps_more {narrow wide : Option Knowledge}
    (hwide : Knowledge.Within narrow wide) {config : Config} (hdry : config.dryRun = false)
    (hisolate : ∀ category, config.policies.of category = .isolate) (p : Bool)
    {ta tb : Trace Store} (ha : ta.backend.Filled)
    (hobjects : ta.backend.objects = tb.backend.objects) (hlax : Laxer ta.backend tb.backend)
    (hlist : ta.backend.listFailures = []) (hlist' : tb.backend.listFailures = [])
    {key : Address} {r : Resource}
    (hleft : ((standard (Store.backend p) wide config).sweepAll tb).2.backend.find? key = some r) :
    ∃ r', ((standard (Store.backend p) narrow config).sweepAll ta).2.backend.find? key = some r' ∧
      r.TrimOf r' := by
  have hahead : Ahead [] [.segment, .lbService, .tier1] config.domain ta.backend tb.backend :=
    .start ha.wellFormed hobjects hlax hlist hlist'
  obtain ⟨altered, level, hdone⟩ := sweepAll_ahead (c := standard (Store.backend p) narrow config)
    rfl hdry hisolate hwide Plan.standard_orderly hahead
  obtain ⟨r', hr', htrim, -⟩ := hdone.remains.thinned.found hleft
  exact ⟨r', hr', htrim⟩

def isolating : Config := { Config.default with policies := [(.qosPolicies, .isolate)] }

def sharedRefusing : Store :=
  shared.failDelete .tier1NatRule "rule" (.unauthenticated "expired")

/-- The wide run removes the rule, and the narrow one is refused that; both keep the router of the
other deployment. -/
theorem refused_run_keeps_foreign_router :
    let narrow := standard (Store.backend false) (some fun _ id => id = "ours") isolating
    let wide := standard (Store.backend false) none isolating
    let rule : Address := { kind := .tier1NatRule, parents := ["ours"], id := "rule" }
    let theirs : Address := { kind := .tier1, parents := [], id := "theirs" }
    (wide.sweepAll (.start shared)).2.backend.find? rule = none ∧
      ((narrow.sweepAll (.start sharedRefusing)).2.backend.find? rule).isSome = true ∧
      ∃ r, (narrow.sweepAll (.start sharedRefusing)).2.backend.find? theirs = some r ∧
        (complete theirs (.foreign "theirs")).TrimOf r := by
  refine ⟨by decide +kernel, by decide +kernel, ?_⟩
  have hwide : Knowledge.Within (some fun _ id => id = "ours") none := trivial
  have hisolate : ∀ category, isolating.policies.of category = .isolate := fun category => by
    cases category <;> rfl
  have hfilled : (Trace.start sharedRefusing).backend.Filled := shared_filled.failDelete _ _ _
  have hobjects : (Trace.start sharedRefusing).backend.objects =
      (Trace.start shared).backend.objects := rfl
  have hlax : Laxer (Trace.start sharedRefusing).backend (Trace.start shared).backend :=
    ⟨fun _ _ => rfl, fun _ _ => rfl⟩
  have hleft : ((standard (Store.backend false) none isolating).sweepAll
      (.start shared)).2.backend.find? { kind := .tier1, parents := [], id := "theirs" } =
        some (complete { kind := .tier1, parents := [], id := "theirs" } (.foreign "theirs")) := by
    decide +kernel
  exact narrower_run_keeps_more hwide rfl hisolate false hfilled hobjects hlax rfl rfl hleft

end Sweep

end NetSweep
