import NetSweep.Proofs.Transcripts

/-!
# What reports count

A report counts the deletes of the objects that its category answers for, each by its answer, and
no other call: not the deletes of what only serves those objects, not the deletes of shared
firewall objects, not updates.
-/

namespace NetSweep

theorem Category.kinds_of_failures (category : Category) : ∀ kind ∈ category.reported,
    kind ≠ .gatewayPolicy ∧ kind ≠ .service ∧ (kind = .group → category = .securityGroups) := by
  cases category <;> decide

def FailedDelete.Names (f : FailedDelete) (k : Address) : Prop := f.kind = k.kind ∧ f.id = k.id

namespace Cleanup

structure Attempt where
  target : Address
  answer : Answer Unit
deriving DecidableEq, Repr

namespace Attempt

def succeeded (a : Attempt) : Bool :=
  match a.answer with
  | .ok _ => true
  | .error _ => false

def gone (a : Attempt) : Bool :=
  match a.answer with
  | .ok _ => false
  | .error e => e.isNotFound

/-- The failure that is reported, unless the object was deleted or not there. -/
def failure? (a : Attempt) : Option FailedDelete :=
  match a.answer with
  | .ok _ => none
  | .error e =>
    if e.isNotFound then none
    else some { kind := a.target.kind, id := a.target.id, message := e.message }

theorem names_of_failure? {a : Attempt} {f : FailedDelete} (h : a.failure? = some f) :
    f.Names a.target := by
  rcases a with ⟨target, e | _⟩
  · simp only [failure?] at h
    split at h
    · cases h
    · exact (Option.some.inj h) ▸ ⟨rfl, rfl⟩
  · cases h

/-- Every attempt succeeds, finds its object gone, or fails. -/
theorem length_eq (attempts : List Attempt) : attempts.length =
    attempts.countP succeeded + attempts.countP gone + (attempts.filterMap failure?).length := by
  induction attempts with
  | nil => rfl
  | cons a attempts ih =>
    rcases a with ⟨target, e | _⟩
    · cases hgone : e.isNotFound with
      | true =>
        simp [succeeded, gone, failure?, hgone, ih]
        omega
      | false =>
        simp [succeeded, gone, failure?, hgone, ih]
        omega
    · rw [List.length_cons, List.countP_cons_of_pos rfl,
        List.countP_cons_of_neg Bool.false_ne_true, List.filterMap_cons_none rfl, ih]
      omega

end Attempt

variable {σ : Type}

def Event.attempt? : Event → Option Attempt
  | .deletion .owned target (some answer) => some { target, answer }
  | _ => none

theorem Event.attempt?_eq_some {event : Event} {attempt : Attempt} :
    event.attempt? = some attempt ↔
      event = .deletion .owned attempt.target (some attempt.answer) := by
  rcases attempt with ⟨target, answer⟩
  rcases event with _ | _ | ⟨_ | _ | _, _, _ | _⟩ | _ <;> simp [attempt?]

/-- The report counts the attempts among some events, all of kinds that the category answers for
and that the backend lets it reach. -/
structure Accounts (s : Setting σ) (category : Category) (events : List Event)
    (report : Report.Section) : Prop where
  candidates : report.candidates = (events.filterMap Event.attempt?).length
  deleted : report.deleted = (events.filterMap Event.attempt?).countP Attempt.succeeded
  alreadyGone : report.alreadyGone = (events.filterMap Event.attempt?).countP Attempt.gone
  failures : report.failures = (events.filterMap Event.attempt?).filterMap Attempt.failure?
  kinds : ∀ a ∈ events.filterMap Event.attempt?,
    a.target.kind ∈ category.reported ∧ s.Reaches a.target.kind
  propagated : s.policy = .propagate → report.failures = []
  skipped : report.skipped.isSome = true →
    category = .dhcp ∧ s.backend.allowsPassthrough = false

namespace Accounts

variable {s : Setting σ} {category : Category} {events : List Event} {report : Report.Section}

theorem fresh : Accounts s category [] (.fresh category) where
  candidates := rfl
  deleted := rfl
  alreadyGone := rfl
  failures := rfl
  kinds := List.forall_mem_nil _
  propagated _ := rfl
  skipped := nofun

/-- No other call is counted. -/
theorem other (h : Accounts s category events report) {event : Event}
    (hevent : event.attempt? = none) : Accounts s category (events ++ [event]) report := by
  have hsame : (events ++ [event]).filterMap Event.attempt? = events.filterMap Event.attempt? := by
    simp [hevent]
  constructor
  all_goals try rw [hsame]
  exacts [h.candidates, h.deleted, h.alreadyGone, h.failures, h.kinds, h.propagated, h.skipped]

/-- An attempt that does not end the category is counted by its answer. -/
theorem attempt (h : Accounts s category events report) {target : Address} {answer : Answer Unit}
    {report' : Report.Section}
    (hrecorded : Recorded s.policy target report (some answer) (.ok ()) report')
    (hkind : target.kind ∈ category.reported) (hreach : s.Reaches target.kind) :
    Accounts s category (events ++ [Event.deletion .owned target (some answer)]) report' := by
  have hadded : (events ++ [Event.deletion .owned target (some answer)]).filterMap
      Event.attempt? = events.filterMap Event.attempt? ++ [Attempt.mk target answer] := by
    simp [Event.attempt?]
  have hkinds : ∀ a ∈ events.filterMap Event.attempt? ++ [Attempt.mk target answer],
      a.target.kind ∈ category.reported ∧ s.Reaches a.target.kind := by
    intro a ha
    rcases List.mem_append.1 ha with ha | ha
    · exact h.kinds a ha
    · obtain rfl := List.mem_singleton.1 ha
      exact ⟨hkind, hreach⟩
  cases hrecorded with
  | deleted =>
    constructor
    all_goals try rw [hadded]
    · simp [h.candidates]
    · simp [h.deleted, Attempt.succeeded]
    · simp [h.alreadyGone, Attempt.gone]
    · simp [h.failures, Attempt.failure?]
    · exact hkinds
    · exact h.propagated
    · exact h.skipped
  | gone hgone =>
    constructor
    all_goals try rw [hadded]
    · simp [h.candidates]
    · simp [h.deleted, Attempt.succeeded]
    · simp [h.alreadyGone, Attempt.gone, hgone]
    · simp [h.failures, Attempt.failure?, hgone]
    · exact hkinds
    · exact h.propagated
    · exact h.skipped
  | isolated hthere hpolicy =>
    constructor
    all_goals try rw [hadded]
    · simp [h.candidates]
    · simp [h.deleted, Attempt.succeeded]
    · simp [h.alreadyGone, Attempt.gone, hthere]
    · simp [h.failures, Attempt.failure?, hthere]
    · exact hkinds
    · intro hpropagate
      cases hpolicy.symm.trans hpropagate
    · exact h.skipped

theorem balanced (h : Accounts s category events report) :
    report.candidates = report.deleted + report.alreadyGone + report.failures.length := by
  rw [h.candidates, h.deleted, h.alreadyGone, h.failures]
  exact Attempt.length_eq _

theorem kinds_of_failures (h : Accounts s category events report) : ∀ f ∈ report.failures,
    f.kind ≠ .gatewayPolicy ∧ f.kind ≠ .service ∧
      (f.kind = .group → category = .securityGroups) := by
  intro f hf
  rw [h.failures] at hf
  obtain ⟨a, ha, hfailure⟩ := List.mem_filterMap.1 hf
  rw [(Attempt.names_of_failure? hfailure).1]
  exact category.kinds_of_failures _ (h.kinds a ha).1

/-- A category that is skipped has attempted nothing. -/
theorem attempts_eq_nil (h : Accounts s category events report)
    (hskipped : report.skipped.isSome = true) : events.filterMap Event.attempt? = [] := by
  obtain ⟨rfl, hpass⟩ := h.skipped hskipped
  rw [List.eq_nil_iff_forall_not_mem]
  intro a ha
  obtain ⟨hkind, hreach⟩ := h.kinds a ha
  have hmanager : ∀ kind ∈ Category.reported .dhcp, kind.api = .manager := by decide
  rw [hreach (hmanager _ hkind)] at hpass
  cases hpass

end Accounts

def Run.Accounted (s : Setting σ) (category : Category) (before : List Event) (r : Run σ) : Prop :=
  ∃ events, r.journal = before ++ events ∧ Accounts s category events r.report

theorem Run.Accounted.other {s : Setting σ} {category : Category} {before : List Event}
    {r r' : Run σ} (h : r.Accounted s category before) {event : Event}
    (hevent : event.attempt? = none) (hjournal : r'.journal = r.journal ++ [event])
    (hreport : r'.report = r.report) : r'.Accounted s category before := by
  obtain ⟨events, hr, haccounts⟩ := h
  refine ⟨events ++ [event], ?_, ?_⟩
  · rw [hjournal, hr, List.append_assoc]
  · rw [hreport]
    exact haccounts.other hevent

theorem Task.Reads.accounted {t : Task σ (List Resource)}
    {operation : σ → Answer (List Resource) × σ} {event : Answer (List Resource) → Event}
    (h : t.Reads operation event) (hevent : ∀ answer, (event answer).attempt? = none)
    (s : Setting σ) (category : Category) (before : List Event) :
    Task.Guards (Run.Accounted s category before) (fun _ _ => True) t := by
  intro r hr
  obtain ⟨log, htr⟩ := h r
  rw [htr]
  cases (event (operation r.backend).1).fatal? with
  | none => exact hr.other (hevent _) rfl rfl
  | some e => trivial

theorem Task.Changes.accounted {t : Task σ Unit} {event : σ → Event} {after : σ → σ}
    (h : t.Changes event after) (hevent : ∀ x, (event x).attempt? = none) (s : Setting σ)
    (category : Category) (before : List Event) :
    Task.Guards (Run.Accounted s category before) (fun _ _ => True) t := by
  intro r hr
  obtain ⟨log, htr⟩ := h r
  rw [htr]
  exact hr.other (hevent r.backend) rfl rfl

theorem Setting.accounted_steps {s : Setting σ} (hwet : s.config.dryRun = false)
    (category : Category) (before : List Event) :
    s.StepsGuard category (Run.Accounted s category before) (fun _ _ => True) where
  note _ _ h := h
  skip hcategory hpass r h := by
    obtain ⟨events, hjournal, haccounts⟩ := h
    exact ⟨events, hjournal, { haccounts with skipped := fun _ => ⟨hcategory, hpass⟩ }⟩
  list kind parents hplace _ := (s.list_reads hplace).accounted (fun _ => rfl) s category before
  listOrNone kind parents hplace _ :=
    (s.listOrNone_reads hplace).accounted (fun _ => rfl) s category before
  searchAll kind tags hkind _ := by
    have hpolicy : ∀ kind ∈ Plan.firewallKinds, kind ≠ .logicalPort := by decide
    exact (s.searchAll_reads (hpolicy kind hkind)).accounted (fun _ => rfl) s category before
  findDhcpPorts segment _ :=
    (s.findDhcpPorts_reads segment).accounted (fun _ => rfl) s category before
  deleteOwned kind parents id hkind hreach := by
    intro r ⟨events, hjournal, haccounts⟩
    obtain ⟨answer, log, result, report, hanswer, hrun, hrecorded⟩ :=
      s.deleteOwned_effect kind parents id r
    rw [hrun]
    have hasked : answer =
        some (s.backend.delete kind parents id r.backend).1 := by
      rw [← hanswer, Setting.deleteAnswer, hwet]
      rfl
    subst hasked
    cases result with
    | error e => trivial
    | ok _ =>
      refine ⟨events ++ [.deletion .owned { kind, parents, id } (some _)], ?_,
        haccounts.attempt hrecorded hkind hreach⟩
      rw [hjournal, List.append_assoc]
  deleteAuxiliary kind parents id _ _ :=
    (s.deleteAuxiliary_changes kind parents id).accounted (fun _ => rfl) s category before
  deleteShared kind parents id _ _ :=
    (s.deleteShared_changes kind parents id).accounted (fun _ => rfl) s category before
  update id body _ kind _ _ :=
    (s.update_changes kind [] id body).accounted (fun _ => rfl) s category before

end Cleanup

namespace Report

def totalCandidates (r : Report) : Nat := r.categories.foldr (fun c n => c.candidates + n) 0

def totalAlreadyGone (r : Report) : Nat := r.categories.foldr (fun c n => c.alreadyGone + n) 0

/-- The candidates of the category are the deleted, the gone and the failed ones. -/
def Section.Balanced (r : Report.Section) : Prop :=
  r.candidates = r.deleted + r.alreadyGone + r.failures.length

theorem balanced_totals {r : Report} (h : ∀ c ∈ r.categories, c.Balanced) :
    r.totalCandidates = r.totalDeleted + r.totalAlreadyGone + r.totalFailures := by
  rcases r with ⟨dryRun, categories⟩
  induction categories with
  | nil => rfl
  | cons c categories ih =>
    obtain ⟨hc, hcategories⟩ := List.forall_mem_cons.1 h
    have htotal := ih hcategories
    simp only [totalCandidates, totalDeleted, totalAlreadyGone, totalFailures,
      List.foldr_cons] at htotal ⊢
    rw [Section.Balanced] at hc
    omega

end Report

namespace Sweep

open Cleanup

variable {σ : Type} {c : Sweep σ}

def attempts (c : Sweep σ) (category : Category) (t : Trace σ) : List Attempt :=
  (c.eventsOf category t).filterMap Event.attempt?

theorem sweepCategory_accounts (hwet : c.config.dryRun = false) {category : Category}
    {t : Trace σ} {report : Report.Section} (h : (c.sweepCategory category t).1 = .ok report) :
    Accounts (c.setting category) category (c.eventsOf category t) report := by
  have hsteps := Setting.accounted_steps (s := c.setting category) hwet category t.journal
  have hstart : Run.Accounted (c.setting category) category t.journal (c.begun category t) :=
    ⟨[], (List.append_nil _).symm, Accounts.fresh⟩
  rcases sweepCategory_guarded hsteps hstart with
    ⟨r, ⟨events, hjournal, haccounts⟩, hrun⟩ | ⟨e, r, -, hrun⟩
  · have hadded : c.eventsOf category t = events := eventsOf_eq (by rw [hrun]; exact hjournal)
    rw [hrun] at h
    obtain rfl := Except.ok.inj h
    rwa [hadded]
  · rw [hrun] at h
    cases h

/-- Outside dry runs, the report of a category counts the deletes of the objects that the category
answers for by their answers, and lists those that failed in order; and over a whole run every
candidate was deleted, gone or failed.  The answers are the backend's own: a backend that keeps
its calls and answers, category by category or over a whole run, sees the same cleanup and keeps
what the events say. -/
theorem reports_account (c : Sweep σ) (hwet : c.config.dryRun = false) (t : Trace σ) :
    (∀ category report, (c.sweepCategory category t).1 = .ok report →
      report.candidates = report.deleted + report.alreadyGone + report.failures.length ∧
      report.deleted = (c.attempts category t).countP Attempt.succeeded ∧
      report.alreadyGone = (c.attempts category t).countP Attempt.gone ∧
      report.failures = (c.attempts category t).filterMap Attempt.failure? ∧
      (∀ f ∈ report.failures, f.kind ≠ .gatewayPolicy ∧ f.kind ≠ .service ∧
        (f.kind = .group → category = .securityGroups)) ∧
      (c.config.policies.of category = .propagate → report.failures = []) ∧
      (report.skipped.isSome = true → report.candidates = 0 ∧ report.deleted = 0 ∧
        report.alreadyGone = 0 ∧ report.failures = [])) ∧
    (∀ report, (c.sweepAll t).1 = .ok report →
      report.totalCandidates =
        report.totalDeleted + report.totalAlreadyGone + report.totalFailures) ∧
    (∀ category kept, c.transcribed.sweepCategory category (t.keeping kept) =
      ((c.sweepCategory category t).1, (c.sweepCategory category t).2.keeping
        (kept ++ (c.eventsOf category t).filterMap Event.exchange?))) ∧
    ∀ kept, ∃ events, (c.sweepAll t).2.journal = t.journal ++ events ∧
      c.transcribed.sweepAll (t.keeping kept) =
        ((c.sweepAll t).1, (c.sweepAll t).2.keeping
          (kept ++ events.filterMap Event.exchange?)) := by
  refine ⟨fun category report h => ?_, fun report h => ?_,
    fun category kept => c.sweepCategory_transcribed category t kept, c.sweepAll_transcribed t⟩
  · have haccounts := sweepCategory_accounts hwet h
    refine ⟨haccounts.balanced, haccounts.deleted, haccounts.alreadyGone, haccounts.failures,
      haccounts.kinds_of_failures, haccounts.propagated, fun hskipped => ?_⟩
    have hnone := haccounts.attempts_eq_nil hskipped
    have hcandidates := haccounts.candidates
    have hdeleted := haccounts.deleted
    have hgone := haccounts.alreadyGone
    have hfailures := haccounts.failures
    rw [hnone] at hcandidates hdeleted hgone hfailures
    exact ⟨hcandidates, hdeleted, hgone, hfailures⟩
  · have hbalanced : ∀ category t report, (c.sweepCategory category t).1 = .ok report →
        report.Balanced := fun category t report h => (sweepCategory_accounts hwet h).balanced
    exact Report.balanced_totals (sweepAll_reports hbalanced h)

/-- The one router of a deployment cannot be deleted; the rule that goes with it is not counted. -/
theorem refused_router_is_reported :
    let c : Sweep Store := standard (Store.backend false) none .default
    let t : Trace Store := .start (Store.shared.failDelete .tier1 "ours" (.unauthenticated "expired"))
    let failure : FailedDelete :=
      { kind := .tier1, id := "ours", message := (BackendError.unauthenticated "expired").message }
    let report : Report.Section :=
      { Report.Section.fresh .tier1Routers with candidates := 1, failures := [failure] }
    c.config.dryRun = false ∧ (c.sweepCategory .tier1Routers t).1 = .ok report ∧
      [failure] = (c.attempts .tier1Routers t).filterMap Attempt.failure? ∧
      1 = 0 + 0 + [failure].length := by
  intro c t failure report
  have hreport : (c.sweepCategory .tier1Routers t).1 = .ok report := by decide +kernel
  obtain ⟨hcategory, -⟩ := reports_account c rfl t
  obtain ⟨hbalanced, -, -, hfailures, -⟩ := hcategory .tier1Routers report hreport
  exact ⟨rfl, hreport, hfailures, hbalanced⟩

end Sweep

end NetSweep
