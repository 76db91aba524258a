import NetSweep.Proofs.Procedures

/-!
# Invariants of cleanup

A procedure keeps an invariant of the run if each step that it can take does, and an error that
ends it comes from the step that failed.
-/

namespace NetSweep

def Extends {α : Type} (P : α → Prop) (before after : List α) : Prop :=
  ∃ entries, after = before ++ entries ∧ ∀ entry ∈ entries, P entry

namespace Extends

variable {α : Type} {P : α → Prop} {before after : List α} {entry : α}

theorem refl (P : α → Prop) (before : List α) : Extends P before before :=
  ⟨[], (List.append_nil before).symm, List.forall_mem_nil _⟩

theorem add (h : Extends P before after) (hentry : P entry) :
    Extends P before (after ++ [entry]) := by
  obtain ⟨entries, rfl, hentries⟩ := h
  refine ⟨entries ++ [entry], List.append_assoc .., fun other hmem => ?_⟩
  rcases List.mem_append.1 hmem with hmem | hmem
  · exact hentries other hmem
  · exact List.mem_singleton.1 hmem ▸ hentry

end Extends

namespace Cleanup

variable {σ α β : Type} {I : Run σ → Prop}

/-- A task that leads from states with a property to states with it. -/
def Task.Keeps (I : Run σ → Prop) (t : Task σ α) : Prop := ∀ r, I r → I (t r).2

/-- A task that leads from states with the first property to such states again, or to an error
and a state of which the second holds. -/
def Task.Guards (I : Run σ → Prop) (E : CleanupError → Run σ → Prop) (t : Task σ α) : Prop :=
  ∀ r, I r → match t r with
    | (.ok _, r') => I r'
    | (.error e, r') => E e r'

namespace Task.Guards

variable {E : CleanupError → Run σ → Prop}

theorem pure (a : α) : Guards I E (Pure.pure a : Task σ α) := fun _ h => h

theorem bind {t : Task σ α} {f : α → Task σ β} (ht : Guards I E t) (hf : ∀ a, Guards I E (f a)) :
    Guards I E (t >>= f) := by
  intro r h
  have hr := ht r h
  rw [Task.bind_apply]
  rcases htr : t r with ⟨e | a, r'⟩
  · rwa [htr] at hr
  · rw [htr] at hr
    exact hf a r' hr

theorem each {items : List α} {f : α → Task σ Unit} (h : ∀ a ∈ items, Guards I E (f a)) :
    Guards I E (Task.each items f) := by
  induction items with
  | nil => exact pure ()
  | cons a items ih =>
    exact (h a List.mem_cons_self).bind fun _ => ih fun a ha => h a (List.mem_cons_of_mem _ ha)

theorem fail {e : CleanupError} (h : ∀ r, I r → E e r) : Guards I E (Task.fail e : Task σ α) := h

/-- A property that errors do not spoil either is kept. -/
theorem keeps {t : Task σ α} (h : Guards I (fun _ => I) t) : Keeps I t := by
  intro r hr
  have hend := h r hr
  rcases htr : t r with ⟨e | a, r'⟩ <;> rwa [htr] at hend

end Task.Guards

theorem Task.Keeps.guards {t : Task σ α} (h : Keeps I t) : Guards I (fun _ => I) t := by
  intro r hr
  have hend := h r hr
  rcases htr : t r with ⟨e | a, r'⟩ <;> rwa [htr] at hend

namespace Setting

variable (s : Setting σ)

/-- Every step of a category keeps the property. -/
structure StepsKeep (category : Category) (I : Run σ → Prop) : Prop where
  note : ∀ record, Task.Keeps I (note record)
  skip : category = .dhcp → s.backend.allowsPassthrough = false →
    Task.Keeps I (tally fun r => { r with skipped := some noPassthrough })
  list : ∀ kind parents, s.Reaches kind → Task.Keeps I (s.askList kind parents)
  search : ∀ kind tags, s.Reaches kind → Task.Keeps I (s.askSearch kind tags)
  deleteOwned : ∀ kind parents id, kind ∈ category.kinds → s.Reaches kind →
    Task.Keeps I (s.deleteOwned kind parents id)
  deleteAuxiliary : ∀ kind parents id, kind ∈ category.kinds → s.Reaches kind →
    Task.Keeps I (s.deleteAuxiliary kind parents id)
  deleteShared : ∀ kind parents id, kind ∈ category.kinds → s.Reaches kind →
    Task.Keeps I (s.deleteShared kind parents id)
  update : ∀ id body, body.Withdraws → ∀ kind ∈ category.altered, s.Reaches kind →
    Task.Keeps I (s.update kind [] id body)

/-- Every step of a category guards the first property by the second.  What is inside something
else is listed with tolerance for its being gone, everything else without, and the category
answers for the objects of some kinds only. -/
structure StepsGuard (category : Category) (I : Run σ → Prop)
    (E : CleanupError → Run σ → Prop) : Prop where
  note : ∀ record, Task.Guards I E (note record)
  skip : category = .dhcp → s.backend.allowsPassthrough = false →
    Task.Guards I E (tally fun r => { r with skipped := some noPassthrough })
  list : ∀ kind parents, kind.parent? = none → s.Reaches kind →
    Task.Guards I E (s.list kind parents)
  listOrNone : ∀ kind parents, kind.parent?.isSome = true → s.Reaches kind →
    Task.Guards I E (s.listOrNone kind parents)
  searchAll : ∀ kind tags, kind ∈ Plan.firewallKinds → s.Reaches kind →
    Task.Guards I E (s.searchAll kind tags)
  findDhcpPorts : ∀ segment, s.Reaches .logicalPort → Task.Guards I E (s.findDhcpPorts segment)
  deleteOwned : ∀ kind parents id, kind ∈ category.reported → s.Reaches kind →
    Task.Guards I E (s.deleteOwned kind parents id)
  deleteAuxiliary : ∀ kind parents id, kind ∈ category.kinds → s.Reaches kind →
    Task.Guards I E (s.deleteAuxiliary kind parents id)
  deleteShared : ∀ kind parents id, kind ∈ category.kinds → s.Reaches kind →
    Task.Guards I E (s.deleteShared kind parents id)
  update : ∀ id body, body.Withdraws → ∀ kind ∈ category.altered, s.Reaches kind →
    Task.Guards I E (s.update kind [] id body)

namespace StepsGuard

variable {s} {category : Category} {E : CleanupError → Run σ → Prop}

theorem relate (h : s.StepsGuard category I E) :
    s.StepsRelate s category fun {_} t _ => Task.Guards I E t where
  pure a := .pure a
  bind ht hf := ht.bind hf
  note := h.note
  skip := h.skip
  list := h.list
  listOrNone := h.listOrNone
  searchAll := h.searchAll
  findDhcpPorts := h.findDhcpPorts
  deleteOwned := h.deleteOwned
  deleteAuxiliary := h.deleteAuxiliary
  deleteShared := h.deleteShared
  update := h.update

/-- What the steps of a category guard, its procedure guards. -/
theorem sweep (h : s.StepsGuard category I E) : Task.Guards I E (s.sweep category) := by
  -- the second setting is not looked at, so it may as well be the first
  have hrelate : s.StepsRelate (s.onto s.backend s.config.policies s.policy) category
      fun {_} t _ => Task.Guards I E t := h.relate
  exact hrelate.sweep rfl

end StepsGuard

namespace StepsKeep

variable {s} {category : Category}

theorem guards (h : s.StepsKeep category I) : s.StepsGuard category I fun _ => I where
  note record := (h.note record).guards
  skip hcategory hpass := (h.skip hcategory hpass).guards
  list kind parents _ hreach := (h.list kind parents hreach).guards.bind fun
    | .ok resources => .pure resources
    | .error _ => .fail fun _ => id
  listOrNone kind parents _ hreach := (h.list kind parents hreach).guards.bind fun answer => by
    cases answer with
    | ok resources => exact .pure resources
    | error e =>
      dsimp only
      split
      · exact (h.note _).guards.bind fun _ => .pure []
      · exact .fail fun _ => id
  searchAll kind tags _ hreach := (h.search kind tags hreach).guards.bind fun
    | .ok found => .pure found
    | .error _ => .fail fun _ => id
  findDhcpPorts segment hreach := (h.search _ _ hreach).guards.bind fun answer => by
    rcases answer with e | found
    · cases e
      case notFound => exact .pure []
      case passthroughDisabled => exact (h.note _).guards.bind fun _ => .pure []
      all_goals exact .fail fun _ => id
    · exact .pure found
  deleteOwned kind parents id hkind hreach :=
    (h.deleteOwned kind parents id (category.reported_subset hkind) hreach).guards
  deleteAuxiliary kind parents id hkind hreach :=
    (h.deleteAuxiliary kind parents id hkind hreach).guards
  deleteShared kind parents id hkind hreach := (h.deleteShared kind parents id hkind hreach).guards
  update id body hbody kind hkind hreach := (h.update id body hbody kind hkind hreach).guards

/-- What the steps of a category keep, its procedure keeps. -/
theorem sweep (h : s.StepsKeep category I) : Task.Keeps I (s.sweep category) :=
  h.guards.sweep.keeps

end StepsKeep

end Setting

end Cleanup

namespace Sweep

open Cleanup

variable {σ : Type}

def begun (c : Sweep σ) (category : Category) (t : Trace σ) : Run σ :=
  { noted (c.opening category) t with report := .fresh category }

theorem sweepCategory_eq (c : Sweep σ) (category : Category) (t : Trace σ) :
    c.sweepCategory category t =
      match (c.setting category).sweep category (c.begun category t) with
      | (.ok (), r) => (.ok r.report, noted (closing r.report) r.toTrace)
      | (.error e, r) => (.error e, r.toTrace) := rfl

/-- The cleanup of a category ends well with the property that its steps guard, or with an error
and the property that guards it. -/
theorem sweepCategory_guarded {c : Sweep σ} {category : Category} {I : Run σ → Prop}
    {E : CleanupError → Run σ → Prop} (h : (c.setting category).StepsGuard category I E)
    {t : Trace σ} (ht : I (c.begun category t)) :
    (∃ r, I r ∧
      c.sweepCategory category t = (.ok r.report, noted (closing r.report) r.toTrace)) ∨
    ∃ e r, E e r ∧ c.sweepCategory category t = (.error e, r.toTrace) := by
  have hend := h.sweep (c.begun category t) ht
  rw [sweepCategory_eq]
  rcases hr : (c.setting category).sweep category (c.begun category t) with ⟨e | ⟨⟩, r⟩
  · rw [hr] at hend
    exact .inr ⟨e, r, hend, rfl⟩
  · rw [hr] at hend
    exact .inl ⟨r, hend, rfl⟩

/-- What the steps of a category keep of the journal and the backend, the cleanup of the category
keeps. -/
theorem sweepCategory_preserves {c : Sweep σ} {category : Category} {P : List Event → σ → Prop}
    (h : (c.setting category).StepsKeep category fun r => P r.journal r.backend) {t : Trace σ}
    (ht : P t.journal t.backend) :
    P (c.sweepCategory category t).2.journal (c.sweepCategory category t).2.backend := by
  rcases sweepCategory_guarded (t := t) h.guards ht with ⟨r, hr, hrun⟩ | ⟨e, r, hr, hrun⟩
  · rw [hrun]
    exact hr
  · rw [hrun]
    exact hr

theorem runSteps_of_ok {c : Sweep σ} {step : Plan.Step} {steps : List Plan.Step}
    {t t' : Trace σ} {report : Report.Section}
    (h : c.sweepCategory step.category t = (.ok report, t')) :
    (c.runSteps (step :: steps) t).2 = (c.runSteps steps t').2 := by
  simp only [runSteps, h]
  split <;> simp [*]

theorem runSteps_cons_ok {c : Sweep σ} {step : Plan.Step} {steps : List Plan.Step} {t : Trace σ}
    {reports : List Report.Section} (h : (c.runSteps (step :: steps) t).1 = .ok reports) :
    ∃ report t' later, c.sweepCategory step.category t = (.ok report, t') ∧
      (c.runSteps steps t').1 = .ok later ∧ reports = report :: later := by
  rw [runSteps] at h
  rcases hstep : c.sweepCategory step.category t with ⟨e | report, t'⟩
  · rw [hstep] at h
    cases h
  · rw [hstep] at h
    dsimp only at h
    rcases hrest : c.runSteps steps t' with ⟨e | later, t''⟩
    · rw [hrest] at h
      cases h
    · rw [hrest] at h
      exact ⟨report, t', later, rfl, by rw [hrest], (Except.ok.inj h).symm⟩

theorem runSteps_cons_eq_ok {c : Sweep σ} {step : Plan.Step} {steps : List Plan.Step}
    {t t'' : Trace σ} {reports : List Report.Section}
    (h : c.runSteps (step :: steps) t = (.ok reports, t'')) :
    ∃ report t' later, c.sweepCategory step.category t = (.ok report, t') ∧
      c.runSteps steps t' = (.ok later, t'') ∧ reports = report :: later := by
  obtain ⟨report, t', later, hstep, hrest, rfl⟩ := runSteps_cons_ok (congrArg Prod.fst h)
  have hend : (c.runSteps (step :: steps) t).2 = (c.runSteps steps t').2 := runSteps_of_ok hstep
  rw [h] at hend
  exact ⟨report, t', later, hstep, Prod.ext hrest hend.symm, rfl⟩

theorem sweepAll_ok {c : Sweep σ} {t : Trace σ} {report : Report}
    (h : (c.sweepAll t).1 = .ok report) :
    (c.runSteps c.plan.steps (noted c.starting t)).1 = .ok report.categories := by
  rw [sweepAll] at h
  rcases hrun : c.runSteps c.plan.steps (noted c.starting t) with ⟨e | reports, t'⟩
  · rw [hrun] at h
    cases h
  · rw [hrun] at h
    obtain rfl := Except.ok.inj h
    rfl

theorem sweepAll_journal (c : Sweep σ) (t : Trace σ) : (c.sweepAll t).2.journal =
    (c.runSteps c.plan.steps (noted c.starting t)).2.journal := by
  rw [sweepAll]
  rcases c.runSteps c.plan.steps (noted c.starting t) with ⟨e | reports, t'⟩ <;> rfl

theorem sweepAll_backend (c : Sweep σ) (t : Trace σ) : (c.sweepAll t).2.backend =
    (c.runSteps c.plan.steps (noted c.starting t)).2.backend := by
  rw [sweepAll]
  rcases c.runSteps c.plan.steps (noted c.starting t) with ⟨e | reports, t'⟩ <;> rfl

/-- What the cleanup of each step's category keeps, the steps keep. -/
theorem runSteps_preserves {c : Sweep σ} {P : Trace σ → Prop} {steps : List Plan.Step}
    (h : ∀ step ∈ steps, ∀ t, P t → P (c.sweepCategory step.category t).2) {t : Trace σ}
    (ht : P t) : P (c.runSteps steps t).2 := by
  induction steps generalizing t with
  | nil => exact ht
  | cons step steps ih =>
    have hfirst := h step List.mem_cons_self t ht
    rcases hrun : c.sweepCategory step.category t with ⟨e | report, t'⟩
    · rw [hrun] at hfirst
      simp only [runSteps, hrun]
      exact hfirst
    · rw [hrun] at hfirst
      rw [runSteps_of_ok hrun]
      exact ih (fun step hmem => h step (List.mem_cons_of_mem _ hmem)) hfirst

/-- What the cleanup of each category keeps of the journal and the backend, a whole run keeps. -/
theorem sweepAll_preserves {c : Sweep σ} {P : List Event → σ → Prop}
    (h : ∀ step ∈ c.plan.steps, ∀ t : Trace σ, P t.journal t.backend →
      P (c.sweepCategory step.category t).2.journal (c.sweepCategory step.category t).2.backend)
    {t : Trace σ} (ht : P t.journal t.backend) :
    P (c.sweepAll t).2.journal (c.sweepAll t).2.backend := by
  rw [sweepAll_journal, sweepAll_backend]
  exact runSteps_preserves (P := fun t => P t.journal t.backend) h ht

/-- What holds of every report of a category holds of every part of the report of a run. -/
theorem sweepAll_reports {c : Sweep σ} {P : Report.Section → Prop}
    (h : ∀ category t report, (c.sweepCategory category t).1 = .ok report → P report)
    {t : Trace σ} {report : Report} (hreport : (c.sweepAll t).1 = .ok report) :
    ∀ r ∈ report.categories, P r := by
  have hsteps : ∀ steps t reports, (c.runSteps steps t).1 = .ok reports → ∀ r ∈ reports, P r := by
    intro steps
    induction steps with
    | nil =>
      intro t reports hreports
      obtain rfl := Except.ok.inj hreports
      exact List.forall_mem_nil _
    | cons step steps ih =>
      intro t reports hreports
      obtain ⟨report, t', later, hstep, hrest, rfl⟩ := runSteps_cons_ok hreports
      have hfirst : P report := h step.category t report (by rw [hstep])
      exact List.forall_mem_cons.2 ⟨hfirst, ih t' later hrest⟩
  exact hsteps _ _ _ (sweepAll_ok hreport)

end Sweep

end NetSweep
