import NetSweep.Proofs.Candidates
import NetSweep.Proofs.DryRun
import NetSweep.Proofs.NarrowerRuns

/-!
# What a dry run foretells

A category hands over the same objects in a dry run as in a real one, and whatever deletes and
updates are refused.  Over a whole plan the dry run hands over all that the real one does, and
maybe more: what an earlier category removed, a later one no longer finds.
-/

namespace NetSweep

open Cleanup Store

namespace Sweep

section

variable {σ : Type} (c : Sweep σ)

def rehearsed (dry : Bool) : Sweep σ := { c with config := { c.config with dryRun := dry } }

/-- What the cleanup of a category hands over for deletion and answers for, in order. -/
def handed (category : Category) (t : Trace σ) : List Address :=
  (c.eventsOf category t).filterMap Event.handed?

/-- What the categories of some steps hand over, up to the one that ends with an error. -/
def handedBy : List Plan.Step → Trace σ → List (Category × List Address)
  | [], _ => []
  | step :: rest, t =>
    (step.category, c.handed step.category t) ::
      match c.sweepCategory step.category t with
      | (.ok _, t') => handedBy rest t'
      | (.error _, _) => []

def handedByAll (t : Trace σ) : List (Category × List Address) :=
  c.handedBy c.plan.steps (noted c.starting t)

end

variable {c : Sweep Store} {p : Bool} {category : Category} {base : Store} {altered level : List Kind}

section

variable (hb : c.backend = Store.backend p)

include hb

/-- How a category ends and what it hands over is settled by the objects that it starts from and
the lists that fail. -/
theorem sweepCategory_settled (hisolate : c.config.policies.of category = .isolate)
    (hw : base.WellFormed) :
    ∃ outcome found, found.Nodup ∧
      (outcome = .ok () →
        found = ((c.rehearsed false).setting category).candidates category base) ∧
      ∀ dry t, t.backend.objects = base.objects → t.backend.listFailures = base.listFailures →
        ((c.rehearsed dry).sweepCategory category t).1.map (fun _ => ()) = outcome ∧
          (c.rehearsed dry).handed category t = found := by
  -- the setting of the real run stands for both
  have hs₀ : ((c.rehearsed false).setting category).OnStore p := onStore hb rfl
  obtain ⟨outcome, found, hprefix, hall, hrun⟩ := Setting.settled_sweep hs₀ hw category
  rw [Setting.handed_changes] at hprefix hall
  refine ⟨outcome, found, (hs₀.nodup_candidates hw category).sublist hprefix.sublist, hall, ?_⟩
  intro dry t hobjects hlists
  have halike : ((c.rehearsed false).setting category).Alike p
      ((c.rehearsed dry).setting category) := ⟨hb, rfl, rfl, rfl, hisolate⟩
  have hagree : base.Agree (fun _ => True) ((c.rehearsed dry).begun category t).backend := by
    refine ⟨?_, hlists, fun k _ => ?_⟩
    · show Assoc.Sorted t.backend.objects
      rw [hobjects]
      exact hw.sorted
    · show t.backend.find? k = base.find? k
      rw [find?, find?, hobjects]
  obtain ⟨r, hr, hadvances⟩ := hrun _ halike _ hagree
  dsimp only at hr
  obtain ⟨events, hjournal, hevents⟩ := hadvances.journal
  have hend : ((c.rehearsed dry).sweepCategory category t).2.journal = t.journal ++ events := by
    rw [sweepCategory_eq, hr]
    cases outcome <;> exact hjournal
  refine ⟨?_, ?_⟩
  · rw [sweepCategory_eq, hr]
    cases outcome <;> rfl
  · rw [handed, eventsOf_eq hend, hevents]

theorem handed_of_ok (hisolate : c.config.policies.of category = .isolate) {dry : Bool}
    {t t' : Trace Store} (hw : t.backend.WellFormed) {report : Report.Section}
    (hrun : (c.rehearsed dry).sweepCategory category t = (.ok report, t')) :
    (c.rehearsed dry).handed category t =
      ((c.rehearsed false).setting category).candidates category t.backend := by
  obtain ⟨outcome, found, -, hall, hsettled⟩ := sweepCategory_settled hb hisolate hw
  obtain ⟨houtcome, hfound⟩ := hsettled dry t rfl rfl
  rw [hrun] at houtcome
  exact hfound.trans (hall houtcome.symm)

theorem rehearsed_keeps_backend {t t' : Trace Store} {report : Report.Section}
    (hrun : (c.rehearsed true).sweepCategory category t = (.ok report, t')) :
    t'.backend = t.backend := by
  have hreads : (c.rehearsed true).backend.ReadsKeep (· = t.backend) :=
    hb ▸ Store.backend_readsKeep p _
  have hkept := (sweepCategory_dry rfl hreads category t rfl).1
  rwa [hrun] at hkept

/-- What the real run of a category leaves of a store is still the store thinned. -/
theorem real_thins {t t' : Trace Store} (hw : base.WellFormed)
    (hthin : Thinned altered base t.backend) {report : Report.Section}
    (hrun : (c.rehearsed false).sweepCategory category t = (.ok report, t')) :
    Thinned (altered ++ category.altered) base t'.backend ∧
      t'.backend.listFailures = t.backend.listFailures := by
  have hs : ((c.rehearsed false).setting category).OnStore p := onStore hb rfl
  have hwt := hthin.wellFormed hw
  obtain ⟨done, hdone, hbackend⟩ := sweepCategory_done hs hwt
  rw [hrun] at hbackend
  have hmild : ∀ ch ∈ done,
      ch.Mild (altered ++ category.altered) (c.rehearsed false).config.domain := fun ch hch =>
    (mild_of_mem_changes hs hwt ch (hdone.subset hch)).mono (List.subset_append_right _ _)
  rw [hbackend]
  exact ⟨(hthin.mono (List.subset_append_left _ _)).applyAll hw hmild,
    congrArg (·.2.2) (failures_applyAll p done t.backend)⟩

theorem handedBy_foretold (hisolate : ∀ category, c.config.policies.of category = .isolate)
    {steps : List Plan.Step} (horderly : Plan.orderly altered level steps = true)
    {ta tb : Trace Store} (ha : ta.backend.WellFormed)
    (hthin : Thinned altered ta.backend tb.backend)
    (hlists : tb.backend.listFailures = ta.backend.listFailures)
    {reports reports' : List Report.Section}
    (hdry : ((c.rehearsed true).runSteps steps ta).1 = .ok reports)
    (hreal : ((c.rehearsed false).runSteps steps tb).1 = .ok reports') :
    List.Forall₂ (fun real foretold => real.1 = foretold.1 ∧ real.2 ⊆ foretold.2)
      ((c.rehearsed false).handedBy steps tb) ((c.rehearsed true).handedBy steps ta) := by
  -- the store of the dry run stays, and that of the real run gets thinner
  induction steps generalizing altered level ta tb reports reports' with
  | nil => exact .nil
  | cons step steps ih =>
    simp only [Plan.orderly, Bool.and_eq_true, List.all_eq_true, decide_eq_true_eq] at horderly
    obtain ⟨⟨hintact, -⟩, hrest⟩ := horderly
    obtain ⟨report, ta', later, hstep, hdry', rfl⟩ := runSteps_cons_ok hdry
    obtain ⟨report', tb', later', hstep', hreal', rfl⟩ := runSteps_cons_ok hreal
    have hkept : ta'.backend = ta.backend := rehearsed_keeps_backend hb hstep
    obtain ⟨hthin', hlists'⟩ := real_thins hb ha hthin hstep'
    have hs : ((c.rehearsed false).setting step.category).OnStore p := onStore hb rfl
    have hfirst : (c.rehearsed false).handed step.category tb ⊆
        (c.rehearsed true).handed step.category ta := by
      rw [handed_of_ok hb (hisolate _) ha hstep,
        handed_of_ok hb (hisolate _) (hthin.wellFormed ha) hstep']
      exact Setting.candidates_subset hs ha hthin hlists step.category fun kind hkind =>
        hintact kind (step.category.steady_subset hkind)
    rw [← hkept] at ha hthin'
    have hlater := ih hrest ha hthin' (hlists'.trans (hlists.trans (by rw [hkept]))) hdry' hreal'
    simp only [handedBy, hstep, hstep']
    exact .cons ⟨rfl, hfirst⟩ hlater

end

/-- A dry run foretells the real one.  From the same objects, and where the same lists fail, a
category ends in the same way and hands over the same objects, each once, whether or not it is a
dry run and whatever deletes and updates are refused.  If both run through the whole plan, each
category hands over in the real run only what it does in the dry run. -/
theorem rehearsal_foretells (p : Bool) (authority : Option Knowledge) (config : Config)
    {t t' : Trace Store} (ht : t.backend.Filled)
    (hobjects : t'.backend.objects = t.backend.objects)
    (hlists : t'.backend.listFailures = t.backend.listFailures) :
    let c := standard (Store.backend p) authority config
    (∀ category, config.policies.of category = .isolate → ∀ dry dry',
      ((c.rehearsed dry).sweepCategory category t).1.map (fun _ => ()) =
          ((c.rehearsed dry').sweepCategory category t').1.map (fun _ => ()) ∧
        (c.rehearsed dry).handed category t = (c.rehearsed dry').handed category t' ∧
        ((c.rehearsed dry).handed category t).Nodup) ∧
    ((∀ category, config.policies.of category = .isolate) → ∀ report report',
      ((c.rehearsed false).sweepAll t).1 = .ok report →
      ((c.rehearsed true).sweepAll t').1 = .ok report' →
        List.Forall₂ (fun real foretold => real.1 = foretold.1 ∧ real.2 ⊆ foretold.2)
          ((c.rehearsed false).handedByAll t) ((c.rehearsed true).handedByAll t')) := by
  intro c
  refine ⟨fun category hisolate dry dry' => ?_, fun hisolate report report' hreal hdry => ?_⟩
  · obtain ⟨outcome, found, hnodup, -, hsettled⟩ :=
      sweepCategory_settled (c := c) rfl hisolate ht.wellFormed
    obtain ⟨hend, hfound⟩ := hsettled dry t rfl rfl
    obtain ⟨hend', hfound'⟩ := hsettled dry' t' hobjects hlists
    exact ⟨hend.trans hend'.symm, hfound.trans hfound'.symm, hfound ▸ hnodup⟩
  · have hthin : Thinned [] t.backend t'.backend := .of_objects ht.wellFormed hobjects
    have hw : t'.backend.WellFormed := hthin.wellFormed ht.wellFormed
    have hstart : Thinned [] (noted (c.rehearsed true).starting t').backend
        (noted (c.rehearsed false).starting t).backend := .of_objects hw hobjects.symm
    exact handedBy_foretold (c := c) rfl hisolate Plan.standard_orderly hw hstart hlists.symm
      (sweepAll_ok hdry) (sweepAll_ok hreal)

theorem exists_of_isOk {ε α : Type} {x : Except ε α} (h : x.isOk = true) : ∃ a, x = .ok a := by
  cases x with
  | error e => cases h
  | ok a => exact ⟨a, rfl⟩

def servingPort : Resource :=
  ((Resource.owned "port").withTag { scope := networkScope, tag := "net" }).withField "attachment"
    (.object [("attachment_type", .string Setting.dhcpServiceType)])

def served : Store :=
  let segment : Address := { kind := .segment, parents := [], id := "net" }
  let port : Address := { kind := .logicalPort, parents := [], id := "port" }
  { Store.empty with
    objects :=
      [(segment, complete segment (.owned "net")), (port, complete port servingPort)] }

theorem served_filled : served.Filled :=
  Filled.empty.insertAll [(.segment, [], .owned "net"), (.logicalPort, [], servingPort)]
    (by decide) rfl

/-- The real run removes the port along with its segment, so it is no candidate later on, which it
is in the dry run. -/
theorem removed_port_is_foretold :
    let c := standard (Store.backend true) none isolating
    let port : Address := { kind := .logicalPort, parents := [], id := "port" }
    (Category.dhcp, [port]) ∈ (c.rehearsed true).handedByAll (.start served) ∧
      (Category.dhcp, []) ∈ (c.rehearsed false).handedByAll (.start served) ∧
      List.Forall₂ (fun real foretold => real.1 = foretold.1 ∧ real.2 ⊆ foretold.2)
        ((c.rehearsed false).handedByAll (.start served))
        ((c.rehearsed true).handedByAll (.start served)) := by
  have hisolate : ∀ category, isolating.policies.of category = .isolate := fun category => by
    cases category <;> rfl
  have hok : ∀ dry, (((standard (Store.backend true) none isolating).rehearsed dry).sweepAll
      (.start served)).1.isOk = true := by decide +kernel
  obtain ⟨report, hreal⟩ := exists_of_isOk (hok false)
  obtain ⟨report', hdry⟩ := exists_of_isOk (hok true)
  have hfilled : (Trace.start served).backend.Filled := served_filled
  have hsame : (Trace.start served).backend.objects = (Trace.start served).backend.objects := rfl
  refine ⟨by decide +kernel, by decide +kernel, ?_⟩
  exact (rehearsal_foretells true none isolating hfilled hsame rfl).2 hisolate report report' hreal hdry

end Sweep

end NetSweep
