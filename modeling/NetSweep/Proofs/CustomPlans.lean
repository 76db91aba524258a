import NetSweep.Proofs.GrantedDeletes
import NetSweep.Proofs.NarrowerRuns
import NetSweep.Proofs.PermittedEvents

/-!
# Custom plans

A plan is accepted for the kinds that its steps list, and a step runs its category, whatever it
lists.  So what was accepted only binds the runs of a plan whose steps list all that their
categories may delete.  Nothing less does: on a store where nothing goes, each category asks for
everything that it ever deletes, in whatever order the categories come.
-/

namespace NetSweep

open Cleanup Store

namespace Store

variable {s : Store} {p : Bool}

/-- Whatever is stored, its deletes and updates are arranged to fail. -/
def Frozen (s : Store) : Prop := ∀ k, s.find? k ≠ none →
  Assoc.find? (k.kind, k.id) s.deleteFailures ≠ none ∧
    Assoc.find? (k.kind, k.id) s.patchFailures ≠ none

theorem Frozen.apply (h : s.Frozen) (c : Change) : c.apply p s = s := by
  cases c with
  | delete role k =>
    rcases delete_cases p k s with hsame | ⟨r, -, hr, hfree, -⟩
    · exact hsame
    · exact absurd (obstacle?_eq_none.1 hfree).1 (h k (by simp [hr])).1
  | update k body =>
    rcases patch_cases p k body s with hsame | ⟨r, r', -, hr, -, hfree, -⟩
    · exact hsame
    · exact absurd hfree (h k (by simp [hr])).2

theorem Frozen.applyAll (h : s.Frozen) (cs : List Change) : Change.applyAll p cs s = s := by
  induction cs with
  | nil => rfl
  | cons c cs ih => rw [Change.applyAll_cons, h.apply, ih]

end Store

namespace Cleanup

def Change.deleted? : Change → Option Address
  | .delete _ k => some k
  | .update .. => none

theorem Event.deletion_of_change? {event : Event} {role : Role} {k : Address}
    (h : event.change? = some (.delete role k)) :
    ∃ answer, event = .deletion role k (some answer) := by
  rcases event with _ | _ | ⟨role', target, _ | answer⟩ | ⟨target, body, _ | answer⟩
  case deletion.some =>
    cases h
    exact ⟨answer, rfl⟩
  all_goals cases h

end Cleanup

namespace Sweep

variable {c : Sweep Store} {p : Bool} {t : Trace Store}

/-! ## Runs on a frozen store -/

theorem sweepCategory_frozen (hb : c.backend = Store.backend p) (hwet : c.config.dryRun = false)
    (hisolate : ∀ category, c.config.policies.of category = .isolate) (hw : t.backend.WellFormed)
    (hlist : t.backend.listFailures = []) (hfrozen : t.backend.Frozen) (category : Category) :
    ∃ report t', c.sweepCategory category t = (.ok report, t') ∧ t'.backend = t.backend := by
  obtain ⟨report, t', hrun, hback⟩ :=
    sweepCategory_isolated (onStore hb hwet) hw (hisolate category) hlist
  exact ⟨report, t', hrun, hback.trans (hfrozen.applyAll _)⟩

theorem runSteps_frozen (hb : c.backend = Store.backend p) (hwet : c.config.dryRun = false)
    (hisolate : ∀ category, c.config.policies.of category = .isolate) (hw : t.backend.WellFormed)
    (hlist : t.backend.listFailures = []) (hfrozen : t.backend.Frozen) (steps : List Plan.Step) :
    ∃ reports t', c.runSteps steps t = (.ok reports, t') ∧ t'.backend = t.backend := by
  induction steps generalizing t with
  | nil => exact ⟨[], t, rfl, rfl⟩
  | cons step steps ih =>
    obtain ⟨report, t₁, hrun, hback⟩ :=
      sweepCategory_frozen hb hwet hisolate hw hlist hfrozen step.category
    rw [← hback] at hw hlist hfrozen
    obtain ⟨reports, t₂, hrest, hback'⟩ := ih hw hlist hfrozen
    exact ⟨report :: reports, t₂, by simp only [runSteps, hrun, hrest], hback'.trans hback⟩

/-- What a category would delete of a frozen store, it asks for. -/
theorem asked_of_frozen {category : Category} (hs : (c.setting category).OnStore p)
    (hw : t.backend.WellFormed) (hfrozen : t.backend.Frozen) {report : Report.Section}
    {t' : Trace Store} (hrun : c.sweepCategory category t = (.ok report, t')) {k : Address}
    (hstored : t.backend.find? k ≠ none)
    (hk : k ∈ ((c.setting category).changes category t.backend).filterMap Change.deleted?) :
    ∃ role answer, .deletion role k (some answer) ∈ c.eventsOf category t := by
  obtain ⟨ch, hch, hdeleted⟩ := List.mem_filterMap.1 hk
  obtain ⟨-, hback, -, -, hasked⟩ := sweepCategory_events hs hw hrun
  rw [hfrozen.applyAll] at hback
  cases ch with
  | update target body => cases hdeleted
  | delete role target =>
    obtain rfl := Option.some.inj hdeleted
    have hleft : t'.backend.find? (Change.delete role target).target ≠ none := by rwa [hback]
    obtain ⟨event, hevent, hchange⟩ := List.mem_filterMap.1 (hasked _ hch hleft)
    obtain ⟨answer, rfl⟩ := Event.deletion_of_change? hchange
    exact ⟨role, answer, hevent⟩

end Sweep

/-! ## One object of every kind -/

namespace Store

def entangled : Resource :=
  ((((Resource.owned "x").withTag { scope := networkScope, tag := "x" }).withTag
    { scope := routerScope, tag := "x" }).withTag
      { scope := loadBalancerScope, tag := "x" }).withField
        "attachment" (.object [("attachment_type", .string Setting.dhcpServiceType)])

def place (kind : Kind) : List String :=
  if kind.inDomain then [defaultDomain] else List.replicate kind.parentCount "x"

def furnished : Store :=
  (Store.empty.insertAll (Kind.all.map fun kind => (kind, place kind, entangled))).getD .empty

theorem furnished_filled : furnished.Filled := by
  have hread : Resource.ofJson? entangled.toJson = some entangled := by decide
  have hinserted : (Store.empty.insertAll
      (Kind.all.map fun kind => (kind, place kind, entangled))).isSome = true := by decide +kernel
  obtain ⟨s, hs⟩ := Option.isSome_iff_exists.1 hinserted
  have hsame : furnished = s := by rw [furnished, hs, Option.getD_some]
  rw [hsame]
  refine Filled.empty.insertAll _ (fun o ho => ?_) hs
  obtain ⟨kind, -, rfl⟩ := List.mem_map.1 ho
  exact hread

def frozen : Store :=
  Kind.all.foldl (fun s kind => (s.failDelete kind "x" (.unauthenticated "expired")).failPatch kind
    "x" (.unauthenticated "expired")) furnished

theorem frozen_filled : frozen.Filled :=
  List.foldlRecOn _ _ furnished_filled fun _ h kind _ => (h.failDelete kind _ _).failPatch kind _ _

theorem frozen_frozen : frozen.Frozen := by
  have hall : ∀ o ∈ frozen.objects,
      Assoc.find? (o.1.kind, o.1.id) frozen.deleteFailures ≠ none ∧
        Assoc.find? (o.1.kind, o.1.id) frozen.patchFailures ≠ none := by decide +kernel
  intro k hk
  obtain ⟨r, hr⟩ := Option.ne_none_iff_exists'.1 hk
  exact hall _ (Assoc.mem_of_find? hr)

end Store

namespace Sweep

/-- Every delete that is asked for in the course of a run is of a kind that the step it belongs to
lists. -/
def Binds (c : Sweep Store) (t : Trace Store) : Prop :=
  ∀ before step after reports t', c.plan.steps = before ++ step :: after →
    c.runSteps before (noted c.starting t) = (.ok reports, t') →
    ∀ role target answer, .deletion role target (some answer) ∈ c.eventsOf step.category t' →
      target.kind ∈ step.kinds

/-- A step that lists what its category may delete binds whatever it runs on. -/
theorem binds_of_subset {c : Sweep Store}
    (h : ∀ step ∈ c.plan.steps, step.category.kinds ⊆ step.kinds)
    (t : Trace Store) : c.Binds t := by
  intro before step after reports t' hsplit _ role target answer hmem
  have hstep : step ∈ c.plan.steps := by
    rw [hsplit]
    exact List.mem_append_right before List.mem_cons_self
  exact h step hstep (c.permits_of_mem_eventsOf hmem).2

def freezing (plan : Plan) : Sweep Store :=
  { backend := Store.backend true, authority := none, config := isolating, plan }

theorem frozen_asks (plan : Plan) (category : Category) : ∀ kind ∈ category.kinds,
    ∃ k ∈ (((freezing plan).setting category).changes category frozen).filterMap Change.deleted?,
      k.kind = kind ∧ frozen.find? k ≠ none := by
  have hall : ∀ category ∈ Category.all, ∀ kind ∈ category.kinds,
      ∃ k ∈ (((freezing .standard).setting category).changes category frozen).filterMap
        Change.deleted?, k.kind = kind ∧ frozen.find? k ≠ none := by decide +kernel
  exact hall category (by cases category <;> decide)

theorem subset_of_binds {plan : Plan} (h : (freezing plan).Binds (.start frozen)) :
    ∀ step ∈ plan.steps, step.category.kinds ⊆ step.kinds := by
  intro step hstep kind hkind
  have hisolate : ∀ category, isolating.policies.of category = .isolate := fun category => by
    cases category <;> rfl
  have hw : frozen.WellFormed := frozen_filled.wellFormed
  have hlist : frozen.listFailures = [] := by decide +kernel
  obtain ⟨before, after, hsplit⟩ := List.append_of_mem hstep
  obtain ⟨reports, t', hbefore, hback⟩ := runSteps_frozen (c := freezing plan)
    (t := noted (freezing plan).starting (.start frozen)) rfl rfl hisolate hw hlist frozen_frozen
    before
  have hsame : t'.backend = frozen := hback
  rw [← hsame] at hw hlist
  have hfrozen : t'.backend.Frozen := hsame ▸ frozen_frozen
  obtain ⟨report, t'', hrun, -⟩ := sweepCategory_frozen (c := freezing plan) rfl rfl hisolate hw
    hlist hfrozen step.category
  obtain ⟨k, hk, rfl, hstored⟩ := frozen_asks plan step.category kind hkind
  rw [← hsame] at hk hstored
  obtain ⟨role, answer, hasked⟩ := asked_of_frozen (onStore rfl rfl) hw hfrozen hrun hstored hk
  exact h before step after reports t' hsplit hbefore role k answer hasked

/-- What is accepted of a plan binds its runs on every store if and only if each of its steps lists
all the kinds that the standard plan gives its category. -/
theorem plan_binds_iff {plan : Plan} (haccepted : plan.check = .ok ()) :
    (∀ (p : Bool) (store : Store) (authority : Option Knowledge) (config : Config)
      (c : Sweep Store), store.Filled →
        (standard (Store.backend p) authority config).following plan = .ok c →
          c.Binds (.start store)) ↔
      ∀ step ∈ plan.steps, step.category.kinds ⊆ step.kinds := by
  have hfollowing : ∀ (p : Bool) (authority : Option Knowledge) (config : Config),
      (standard (Store.backend p) authority config).following plan =
        .ok { backend := Store.backend p, authority, config, plan } := fun p authority config => by
    rw [following, haccepted]
    rfl
  constructor
  · intro h
    exact subset_of_binds (h true frozen none isolating _ frozen_filled (hfollowing _ _ _))
  · intro hcover p store authority config c _ hc
    obtain rfl := Except.ok.inj ((hfollowing p authority config).symm.trans hc)
    exact binds_of_subset hcover _

def portsOnly : Plan := { steps := [{ category := .segments, kinds := [.segmentPort] }] }

/-- It is accepted, and some run of it deletes what it does not list. -/
theorem ports_only_is_not_bound : portsOnly.check = .ok () ∧
    ¬ ∀ (p : Bool) (store : Store) (authority : Option Knowledge) (config : Config)
      (c : Sweep Store), store.Filled →
        (standard (Store.backend p) authority config).following portsOnly = .ok c →
          c.Binds (.start store) := by
  have haccepted : portsOnly.check = .ok () := by decide
  have huncovered : ¬ ∀ step ∈ portsOnly.steps, step.category.kinds ⊆ step.kinds := by decide
  exact ⟨haccepted, fun h => huncovered ((plan_binds_iff haccepted).1 h)⟩

end Sweep

end NetSweep
