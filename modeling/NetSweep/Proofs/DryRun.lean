import NetSweep.Proofs.ClientRequests
import NetSweep.Proofs.FilledStores
import NetSweep.Proofs.TaskInvariants

/-!
# A dry run changes nothing

In a dry run cleanup lists and searches, and that is all that it asks of its backend.  So whatever
lists and searches keep of the backend's state, the run keeps: a store as a whole, and of what a
network was sent that nothing but GET requests were added.  Reports count candidates only.
-/

namespace NetSweep

open Cleanup

inductive Call where
  | version
  | list (kind : Kind) (parents : List String)
  | get (kind : Kind) (parents : List String) (id : String)
  | delete (kind : Kind) (parents : List String) (id : String)
  | patch (kind : Kind) (parents : List String) (id : String) (body : Json)
  | search (kind : Kind) (tags : List TagPredicate)

/-- Whether the call can change what the backend holds. -/
def Call.changes : Call → Prop
  | delete .. | patch .. => True
  | _ => False

namespace Backend

variable {σ : Type}

/-- A backend that also keeps the calls made of it, oldest first. -/
def recorded (b : Backend σ) : Backend (σ × List Call) :=
  let keep {α : Type} (call : Call) (operation : σ → Answer α × σ) (x : σ × List Call) :
      Answer α × (σ × List Call) :=
    ((operation x.1).1, (operation x.1).2, x.2 ++ [call])
  { allowsPassthrough := b.allowsPassthrough
    version := keep .version b.version
    list kind parents := keep (.list kind parents) (b.list kind parents)
    get kind parents id := keep (.get kind parents id) (b.get kind parents id)
    delete kind parents id := keep (.delete kind parents id) (b.delete kind parents id)
    patch kind parents id body := keep (.patch kind parents id body) (b.patch kind parents id body)
    search kind tags := keep (.search kind tags) (b.search kind tags) }

/-- Lists and searches lead from states with the property to states with it. -/
structure ReadsKeep (b : Backend σ) (P : σ → Prop) : Prop where
  list : ∀ kind parents x, P x → P (b.list kind parents x).2
  search : ∀ kind tags x, P x → P (b.search kind tags x).2

/-- The calls that are added change nothing. -/
theorem recorded_readsKeep (b : Backend σ) (before : List Call) :
    b.recorded.ReadsKeep fun x => Extends (fun call => ¬ call.changes) before x.2 where
  list _ _ _ h := h.add id
  search _ _ _ h := h.add id

end Backend

theorem Store.backend_readsKeep (p : Bool) (P : Store → Prop) : (Store.backend p).ReadsKeep P :=
  ⟨fun _ _ _ h => h, fun _ _ _ h => h⟩

/-- The report of a category that counts nothing as deleted, gone or failed. -/
structure Report.Section.Untouched (r : Report.Section) : Prop where
  deleted : r.deleted = 0
  alreadyGone : r.alreadyGone = 0
  failures : r.failures = []

namespace Cleanup.Setting

variable {σ : Type} {s : Setting σ} {P : σ → Prop}

theorem askDelete_dry (hdry : s.config.dryRun = true) (role : Role) (target : Address)
    (r : Run σ) : s.askDelete role target r =
      (.ok none, { r with journal := r.journal ++ [.deletion role target none] }) := by
  rw [askDelete, hdry]
  rfl

theorem askUpdate_dry (hdry : s.config.dryRun = true) (target : Address) (body : Json)
    (r : Run σ) : s.askUpdate target body r =
      (.ok none, { r with journal := r.journal ++ [.update target body none] }) := by
  rw [askUpdate, hdry]
  rfl

/-- In a dry run a change is only noted, and as a candidate counted. -/
theorem dry_steps (hdry : s.config.dryRun = true) (hreads : s.backend.ReadsKeep P)
    (category : Category) :
    s.StepsKeep category fun r => P r.backend ∧ r.report.Untouched where
  note _ _ h := h
  skip _ _ _ h := ⟨h.1, h.2.deleted, h.2.alreadyGone, h.2.failures⟩
  list kind parents _ r h := ⟨hreads.list kind parents r.backend h.1, h.2⟩
  search kind tags _ r h := ⟨hreads.search kind tags r.backend h.1, h.2⟩
  deleteOwned kind parents id _ _ r h := by
    rw [deleteOwned, Task.bind_apply, tally, Task.modify_apply]
    dsimp only
    rw [Task.bind_apply, askDelete_dry hdry]
    exact ⟨h.1, h.2.deleted, h.2.alreadyGone, h.2.failures⟩
  deleteAuxiliary kind parents id _ _ r h := by
    rw [deleteAuxiliary, Task.bind_apply, askDelete_dry hdry]
    exact h
  deleteShared kind parents id _ _ r h := by
    rw [deleteShared, Task.bind_apply, askDelete_dry hdry]
    exact h
  update id body _ kind _ _ r h := by
    rw [update, Task.bind_apply, askUpdate_dry hdry]
    exact h

end Cleanup.Setting

/-! ## Runs -/

namespace Sweep

variable {σ : Type} {c : Sweep σ} {P : σ → Prop}

theorem sweepCategory_dry (hdry : c.config.dryRun = true) (hreads : c.backend.ReadsKeep P)
    (category : Category) (t : Trace σ) (ht : P t.backend) :
    P (c.sweepCategory category t).2.backend ∧
      ∀ report, (c.sweepCategory category t).1 = .ok report → report.Untouched := by
  have hsteps : (c.setting category).StepsKeep category fun r =>
      P r.backend ∧ r.report.Untouched := Setting.dry_steps hdry hreads category
  have hstart : P (c.begun category t).backend ∧ (c.begun category t).report.Untouched :=
    ⟨ht, rfl, rfl, rfl⟩
  rcases sweepCategory_guarded hsteps.guards hstart with ⟨r, hr, hrun⟩ | ⟨e, r, hr, hrun⟩
  · rw [hrun]
    exact ⟨hr.1, fun _ hreport => Except.ok.inj hreport ▸ hr.2⟩
  · rw [hrun]
    exact ⟨hr.1, fun _ hreport => by cases hreport⟩

theorem dry_keeps (c : Sweep σ) (hdry : c.config.dryRun = true) (hreads : c.backend.ReadsKeep P)
    (t : Trace σ) (ht : P t.backend) :
    (∀ category, P (c.sweepCategory category t).2.backend) ∧ P (c.sweepAll t).2.backend := by
  refine ⟨fun category => (sweepCategory_dry hdry hreads category t ht).1, ?_⟩
  exact sweepAll_preserves (P := fun _ => P)
    (fun step _ t' ht' => (sweepCategory_dry hdry hreads step.category t' ht').1) ht

theorem dry_reports (c : Sweep σ) (hdry : c.config.dryRun = true) (t : Trace σ) :
    (∀ category report, (c.sweepCategory category t).1 = .ok report → report.Untouched) ∧
      ∀ report, (c.sweepAll t).1 = .ok report → ∀ r ∈ report.categories, r.Untouched := by
  have hreads : c.backend.ReadsKeep fun _ => True := ⟨fun _ _ _ h => h, fun _ _ _ h => h⟩
  have hcategory : ∀ category t report,
      (c.sweepCategory category t).1 = .ok report → report.Untouched :=
    fun category t => (sweepCategory_dry hdry hreads category t trivial).2
  exact ⟨fun category => hcategory category t, fun report => sweepAll_reports hcategory⟩

end Sweep

/-! ## Requests -/

namespace Manager

open Http

variable {σ : Type} {m : Manager σ} {P : σ → Prop}

def GetsKeep (m : Manager σ) (P : σ → Prop) : Prop :=
  ∀ r x, r.method = .get → P x → P (m.network.send r x).2

theorem GetsKeep.admits (h : m.GetsKeep P) : m.Admits (fun method _ => method = .get) P := h

theorem backend_readsKeep (hgets : m.GetsKeep P) : m.backend.ReadsKeep P where
  list _ _ _ hx := list_keeps hgets.admits (fun _ _ _ _ => rfl) hx
  search _ _ _ hx := search_keeps hgets.admits (fun _ _ => rfl) hx

def recorded (m : Manager σ) : Manager (σ × List Request) :=
  { m with network := m.network.recorded }

/-- The requests that are added are of the methods and paths that are looked at. -/
theorem recorded_admits (m : Manager σ) (A : Method → UrlPath → Prop) (before : List Request) :
    m.recorded.Admits A fun x => Extends (fun r => A r.method r.url.path) before x.2 :=
  fun _ _ hr h => h.add hr

end Manager

/-! ## Dry runs -/

namespace Sweep

/-- A dry run, of one category or of a whole plan, asks any backend for nothing but lists and
searches, so it leaves a store as it is and sends a manager nothing but GET requests; and each
report that it gives counts nothing as deleted, gone or failed. -/
theorem dry_run_changes_nothing (authority : Option Knowledge) (config : Config) (plan : Plan)
    (hdry : config.dryRun = true) :
    (∀ {σ : Type} (b : Backend σ) (t : Trace (σ × List Call)),
      let c : Sweep (σ × List Call) := { backend := b.recorded, authority, config, plan }
      (∀ category, ∃ new, (c.sweepCategory category t).2.backend.2 = t.backend.2 ++ new ∧
        ∀ call ∈ new, ¬ call.changes) ∧
      ∃ new, (c.sweepAll t).2.backend.2 = t.backend.2 ++ new ∧ ∀ call ∈ new, ¬ call.changes) ∧
    (∀ {σ : Type} (b : Backend σ) (t : Trace σ),
      let c : Sweep σ := { backend := b, authority, config, plan }
      (∀ category report, (c.sweepCategory category t).1 = .ok report → report.Untouched) ∧
      ∀ report, (c.sweepAll t).1 = .ok report → ∀ r ∈ report.categories, r.Untouched) ∧
    (∀ (p : Bool) (t : Trace Store),
      let c : Sweep Store := { backend := Store.backend p, authority, config, plan }
      (∀ category, (c.sweepCategory category t).2.backend = t.backend) ∧
      (c.sweepAll t).2.backend = t.backend) ∧
    (∀ {σ : Type} (m : Manager σ) (t : Trace (σ × List Http.Request)),
      let c : Sweep (σ × List Http.Request) :=
        { backend := m.recorded.backend, authority, config, plan }
      (∀ category, ∃ new, (c.sweepCategory category t).2.backend.2 = t.backend.2 ++ new ∧
        ∀ r ∈ new, r.method = .get) ∧
      ∃ new, (c.sweepAll t).2.backend.2 = t.backend.2 ++ new ∧ ∀ r ∈ new, r.method = .get) := by
  refine ⟨fun b t => ?_, fun b t => ?_, fun p t => ?_, fun m t => ?_⟩
  · have hkeeps := dry_keeps { backend := b.recorded, authority, config, plan } hdry
      (b.recorded_readsKeep t.backend.2) t (.refl _ t.backend.2)
    exact hkeeps
  · exact dry_reports { backend := b, authority, config, plan } hdry t
  · have hkeeps := dry_keeps { backend := Store.backend p, authority, config, plan } hdry
      (Store.backend_readsKeep p (· = t.backend)) t rfl
    exact hkeeps
  · have hgets : m.recorded.GetsKeep fun x => Extends (fun r => r.method = .get) t.backend.2 x.2 :=
      m.recorded_admits (fun method _ => method = .get) t.backend.2
    have hkeeps := dry_keeps { backend := m.recorded.backend, authority, config, plan } hdry
      (Manager.backend_readsKeep hgets) t (.refl _ t.backend.2)
    exact hkeeps

def rehearsal : Config := { Config.default with dryRun := true }

theorem rehearsal_leaves_shared_store :
    ({ backend := Store.backend false, authority := none, config := rehearsal, plan := .standard :
      Sweep Store }.sweepAll (.start Store.shared)).2.backend = Store.shared := by
  obtain ⟨-, -, hstore, -⟩ := dry_run_changes_nothing none rehearsal .standard rfl
  have hrun := hstore false (.start Store.shared)
  exact hrun.2

end Sweep

end NetSweep
