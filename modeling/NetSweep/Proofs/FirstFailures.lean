import NetSweep.Proofs.Aborts
import NetSweep.Proofs.ReportAccounts

/-!
# The first failure

Where failures are isolated a category goes on past each of them; where they are propagated it ends
with the first.  Up to there the two runs ask the backend for the same things and get the same
answers, so the second run is the first one cut short.
-/

namespace NetSweep

namespace Cleanup

variable {σ α β : Type}

/-- The failures that the deletes among some events have to be reported as. -/
def failuresOf (events : List Event) : List FailedDelete :=
  (events.filterMap Event.attempt?).filterMap Attempt.failure?

@[simp] theorem failuresOf_nil : failuresOf [] = [] := rfl

@[simp] theorem failuresOf_append (events later : List Event) :
    failuresOf (events ++ later) = failuresOf events ++ failuresOf later := by
  simp [failuresOf]

theorem failuresOf_other {event : Event} (h : event.attempt? = none) : failuresOf [event] = [] := by
  simp [failuresOf, h]

theorem failuresOf_failed (target : Address) {e : BackendError} (hthere : e.isNotFound = false) :
    failuresOf [.deletion .owned target (some (.error e))] =
      [{ kind := target.kind, id := target.id, message := e.message }] := by
  simp [failuresOf, Event.attempt?, Attempt.failure?, hthere]

/-- A run ended on the first failed delete among some events, with its error. -/
inductive CutAt (start events : List Event) : CleanupError → Run σ → Prop
  | intro (before after : List Event) (target : Address) {e : BackendError} {r : Run σ}
      (smooth : failuresOf before = []) (there : e.isNotFound = false)
      (cut : events = before ++ .deletion .owned target (some (.error e)) :: after)
      (journal : r.journal = start ++ (before ++ [.deletion .owned target (some (.error e))])) :
      CutAt start events (.deleteFailed target.kind target.id e) r

namespace CutAt

variable {start events : List Event} {err : CleanupError} {r : Run σ}

theorem extend (h : CutAt start events err r) (later : List Event) :
    CutAt start (events ++ later) err r := by
  obtain ⟨before, after, target, smooth, there, rfl, journal⟩ := h
  exact .intro before (after ++ later) target smooth there
    (by rw [List.append_assoc, List.cons_append]) journal

theorem prepend {earlier : List Event} (hsmooth : failuresOf earlier = [])
    (h : CutAt (start ++ earlier) events err r) : CutAt start (earlier ++ events) err r := by
  obtain ⟨before, after, target, smooth, there, rfl, journal⟩ := h
  refine .intro (earlier ++ before) after target
    (by rw [failuresOf_append, hsmooth, smooth]; rfl) there (List.append_assoc ..).symm ?_
  rw [journal, List.append_assoc, List.append_assoc]

end CutAt

/-- The second task does what the first does and no more than up to the first failed delete, which
the first one only reports.  What is logged makes no difference to either. -/
def Task.Cuts (t u : Task σ α) : Prop :=
  ∀ (r : Run σ) (log : List Log.Record), ∃ events,
    (t r).2.journal = r.journal ++ events ∧
    (t r).2.report.failures = r.report.failures ++ failuresOf events ∧
    ((failuresOf events = [] ∧
        ∃ log', u { r with log } = ((t r).1, { (t r).2 with log := log' })) ∨
      ∃ err r', u { r with log } = (.error err, r') ∧ CutAt r.journal events err r')

namespace Task.Cuts

theorem pure (a : α) : Cuts (Pure.pure a : Task σ α) (Pure.pure a) := fun _ log =>
  ⟨[], (List.append_nil _).symm, (List.append_nil _).symm, .inl ⟨rfl, log, rfl⟩⟩

theorem bind {t u : Task σ α} {f g : α → Task σ β} (ht : Cuts t u) (hf : ∀ a, Cuts (f a) (g a)) :
    Cuts (t >>= f) (u >>= g) := by
  intro r log
  obtain ⟨events, hjournal, hfailures, hu⟩ := ht r log
  rw [Task.bind_apply, Task.bind_apply]
  rcases htr : t r with ⟨e | a, r₁⟩
  · rw [htr] at hjournal hfailures hu
    refine ⟨events, hjournal, hfailures, ?_⟩
    rcases hu with ⟨hsmooth, log', hur⟩ | ⟨err, r', hur, hcut⟩
    · rw [hur]
      exact .inl ⟨hsmooth, log', rfl⟩
    · rw [hur]
      exact .inr ⟨err, r', rfl, hcut⟩
  · rw [htr] at hjournal hfailures hu
    dsimp only at hjournal hfailures hu ⊢
    -- the log that the second task goes on with is the one it has reached, if it goes on
    have later : ∀ log', ∃ events',
        (f a r₁).2.journal = r.journal ++ (events ++ events') ∧
        (f a r₁).2.report.failures = r.report.failures ++ failuresOf (events ++ events') ∧
        ((failuresOf events' = [] ∧
            ∃ log'', g a { r₁ with log := log' } = ((f a r₁).1, { (f a r₁).2 with log := log'' })) ∨
          ∃ err r', g a { r₁ with log := log' } = (.error err, r') ∧
            CutAt r₁.journal events' err r') := by
      intro log'
      obtain ⟨events', hjournal', hfailures', hg⟩ := hf a r₁ log'
      rw [hjournal] at hjournal'
      refine ⟨events', by rw [hjournal', List.append_assoc], ?_, hg⟩
      rw [hfailures', hfailures, failuresOf_append, List.append_assoc]
    rcases hu with ⟨hsmooth, log', hur⟩ | ⟨err, r', hur, hcut⟩
    · obtain ⟨events', hjournal', hfailures', hg⟩ := later log'
      refine ⟨events ++ events', hjournal', hfailures', ?_⟩
      rw [hur]
      rcases hg with ⟨hsmooth', log'', hgr⟩ | ⟨err, r', hgr, hcut⟩
      · exact .inl ⟨by rw [failuresOf_append, hsmooth, hsmooth']; rfl, log'', hgr⟩
      · exact .inr ⟨err, r', hgr, (hjournal ▸ hcut).prepend hsmooth⟩
    · obtain ⟨events', hjournal', hfailures', -⟩ := later r₁.log
      refine ⟨events ++ events', hjournal', hfailures', ?_⟩
      rw [hur]
      exact .inr ⟨err, r', rfl, hcut.extend events'⟩

/-- A step that is the same in both settings, and no delete that is answered for. -/
theorem of_event {t u : Task σ α} (event : σ → Event) (answer : σ → Except CleanupError α)
    (after : σ → σ) (ht : ∀ r, ∃ log, t r = (answer r.backend,
      { r with backend := after r.backend, journal := r.journal ++ [event r.backend], log }))
    (hu : ∀ r, ∃ log, u r = (answer r.backend,
      { r with backend := after r.backend, journal := r.journal ++ [event r.backend], log }))
    (hevent : ∀ b, (event b).attempt? = none) : Cuts t u := by
  intro r log
  obtain ⟨log₁, htr⟩ := ht r
  obtain ⟨log₂, hur⟩ := hu { r with log }
  have hsmooth : failuresOf [event r.backend] = [] := failuresOf_other (hevent r.backend)
  rw [htr]
  refine ⟨[event r.backend], rfl, ?_, .inl ⟨hsmooth, log₂, hur⟩⟩
  rw [hsmooth, List.append_nil]

end Task.Cuts

theorem Task.Reads.cuts {t u : Task σ (List Resource)}
    {operation : σ → Answer (List Resource) × σ} {event : Answer (List Resource) → Event}
    (ht : t.Reads operation event) (hu : u.Reads operation event)
    (hevent : ∀ a, (event a).attempt? = none) : Task.Cuts t u :=
  .of_event (fun b => event (operation b).1)
    (fun b => (event (operation b).1).ending (operation b).1.items)
    (fun b => (operation b).2) ht hu fun b => hevent (operation b).1

theorem Task.Changes.cuts {t u : Task σ Unit} {event : σ → Event} {after : σ → σ}
    (ht : t.Changes event after) (hu : u.Changes event after)
    (hevent : ∀ b, (event b).attempt? = none) : Task.Cuts t u :=
  .of_event event (fun _ => .ok ()) after ht hu hevent

namespace Setting

variable {s : Setting σ} {policies : Policies}

/-- Where failures are isolated and where they are propagated, the delete of an object that the
category answers for is the same call; only on a failure do the two part. -/
theorem cuts_deleteOwned (hisolate : s.policy = .isolate) (kind : Kind) (parents : List String)
    (id : String) : Task.Cuts (s.deleteOwned kind parents id)
      ((s.onto s.backend policies .propagate).deleteOwned kind parents id) := by
  intro r log
  obtain ⟨answer, log₁, result, report, hanswer, htr, hrecorded⟩ :=
    s.deleteOwned_effect kind parents id r
  obtain ⟨answer', log₂, result', report', hanswer', hur, hrecorded'⟩ :=
    (s.onto s.backend policies .propagate).deleteOwned_effect kind parents id { r with log }
  obtain rfl : answer = answer' := hanswer.symm.trans hanswer'
  have hpolicy : (s.onto s.backend policies .propagate).policy = .propagate := rfl
  rw [hisolate] at hrecorded
  rw [hpolicy] at hrecorded'
  rw [htr]
  refine ⟨[.deletion .owned { kind, parents, id } answer], rfl, ?_⟩
  cases hrecorded with
  | withheld =>
    cases hrecorded'
    exact ⟨(List.append_nil _).symm, .inl ⟨rfl, log₂, hur⟩⟩
  | deleted =>
    cases hrecorded'
    exact ⟨(List.append_nil _).symm, .inl ⟨rfl, log₂, hur⟩⟩
  | @gone e hgone =>
    have hsmooth : failuresOf [.deletion .owned { kind, parents, id } (some (.error e))] = [] := by
      simp [failuresOf, Event.attempt?, Attempt.failure?, hgone]
    cases hrecorded' with
    | gone => exact ⟨by rw [hsmooth, List.append_nil], .inl ⟨hsmooth, log₂, hur⟩⟩
    | isolated hthere => rw [hgone] at hthere; cases hthere
    | propagated hthere => rw [hgone] at hthere; cases hthere
  | isolated hthere =>
    have hfailed := failuresOf_failed { kind, parents, id } hthere
    cases hrecorded' with
    | gone hgone => rw [hgone] at hthere; cases hthere
    | isolated _ hisolated => cases hisolated
    | propagated =>
      refine ⟨by rw [hfailed], .inr ⟨_, _, hur, ?_⟩⟩
      exact .intro [] [] _ rfl hthere rfl rfl
  | propagated _ hpropagated => cases hpropagated

theorem cutting_steps (hisolate : s.policy = .isolate) (policies : Policies)
    (category : Category) :
    s.StepsRelate (s.onto s.backend policies .propagate) category fun {_} => Task.Cuts where
  pure := .pure
  bind := .bind
  note record r log :=
    ⟨[], (List.append_nil _).symm, (List.append_nil _).symm, .inl ⟨rfl, log ++ [record], rfl⟩⟩
  skip _ _ r log :=
    ⟨[], (List.append_nil _).symm, (List.append_nil _).symm, .inl ⟨rfl, log, rfl⟩⟩
  list kind parents hplace _ :=
    (s.list_reads hplace).cuts
      ((s.onto s.backend policies .propagate).list_reads hplace) fun _ => rfl
  listOrNone kind parents hplace _ :=
    (s.listOrNone_reads hplace).cuts
      ((s.onto s.backend policies .propagate).listOrNone_reads hplace) fun _ => rfl
  searchAll kind tags hkind _ := by
    have hpolicy : ∀ kind ∈ Plan.firewallKinds, kind ≠ .logicalPort := by decide
    exact (s.searchAll_reads (hpolicy kind hkind)).cuts
      ((s.onto s.backend policies .propagate).searchAll_reads (hpolicy kind hkind)) fun _ => rfl
  findDhcpPorts segment _ :=
    (s.findDhcpPorts_reads segment).cuts
      ((s.onto s.backend policies .propagate).findDhcpPorts_reads segment) fun _ => rfl
  deleteOwned kind parents id _ _ := cuts_deleteOwned hisolate kind parents id
  deleteAuxiliary kind parents id _ _ :=
    (s.deleteAuxiliary_changes kind parents id).cuts
      ((s.onto s.backend policies .propagate).deleteAuxiliary_changes kind parents id) fun _ => rfl
  deleteShared kind parents id _ _ :=
    (s.deleteShared_changes kind parents id).cuts
      ((s.onto s.backend policies .propagate).deleteShared_changes kind parents id) fun _ => rfl
  update id body _ kind _ _ :=
    (s.update_changes kind [] id body).cuts
      ((s.onto s.backend policies .propagate).update_changes kind [] id body) fun _ => rfl

end Setting

end Cleanup

namespace Sweep

open Cleanup

variable {σ : Type}

def governed (c : Sweep σ) (policies : Policies) : Sweep σ :=
  { c with config := { c.config with policies } }

/-- How a category ends that propagates failures, told from how it ends when it isolates them. -/
theorem sweepCategory_cut (c : Sweep σ) {isolating propagating : Policies} {category : Category}
    (hisolate : isolating.of category = .isolate)
    (hpropagate : propagating.of category = .propagate) (t : Trace σ) {report : Report.Section}
    (hok : ((c.governed isolating).sweepCategory category t).1 = .ok report) :
    report.failures = failuresOf ((c.governed isolating).eventsOf category t) ∧
      ((report.failures = [] ∧
          ((c.governed propagating).sweepCategory category t).1 = .ok report ∧
          ((c.governed propagating).sweepCategory category t).2.backend =
            ((c.governed isolating).sweepCategory category t).2.backend ∧
          (c.governed propagating).eventsOf category t =
            (c.governed isolating).eventsOf category t) ∨
        ∃ before target e after, failuresOf before = [] ∧ e.isNotFound = false ∧
          (c.governed isolating).eventsOf category t =
            before ++ .deletion .owned target (some (.error e)) :: after ∧
          (c.governed propagating).eventsOf category t =
            before ++ [.deletion .owned target (some (.error e))] ∧
          ((c.governed propagating).sweepCategory category t).1 =
            .error (.deleteFailed target.kind target.id e)) := by
  have hsteps := Setting.cutting_steps (s := (c.governed isolating).setting category)
    hisolate propagating category
  -- the propagating run starts as the isolating one does, but for a record in the log
  obtain ⟨events, hjournal, hfailures, hrun⟩ := hsteps.sweep rfl
    ((c.governed isolating).begun category t) ((c.governed propagating).begun category t).log
  have hsetting : ((c.governed isolating).setting category).onto
      ((c.governed isolating).setting category).backend propagating .propagate =
        (c.governed propagating).setting category := by
    rw [← hpropagate]
    rfl
  rw [hsetting] at hrun
  change ((_ ∧ ∃ log', ((c.governed propagating).setting category).sweep category
      ((c.governed propagating).begun category t) = _) ∨
    ∃ err r', ((c.governed propagating).setting category).sweep category
      ((c.governed propagating).begun category t) = _ ∧ CutAt t.journal events err r') at hrun
  change _ = t.journal ++ events at hjournal
  change _ = [] ++ failuresOf events at hfailures
  rw [sweepCategory_eq] at hok
  rcases hend : ((c.governed isolating).setting category).sweep category
    ((c.governed isolating).begun category t) with ⟨e | ⟨⟩, r⟩
  · rw [hend] at hok
    cases hok
  · rw [hend] at hok hjournal hfailures hrun
    obtain rfl := Except.ok.inj hok
    have hisolated : (c.governed isolating).sweepCategory category t =
        (.ok r.report, noted (closing r.report) r.toTrace) := by rw [sweepCategory_eq, hend]
    have hevents : (c.governed isolating).eventsOf category t = events :=
      eventsOf_eq (by rw [hisolated]; exact hjournal)
    rw [hevents, hisolated]
    refine ⟨hfailures, ?_⟩
    rcases hrun with ⟨hsmooth, log', hrun⟩ | ⟨err, r', hrun, hcut⟩
    · have hpropagated : (c.governed propagating).sweepCategory category t =
          (.ok r.report, noted (closing r.report) { r.toTrace with log := log' }) := by
        rw [sweepCategory_eq, hrun]
      refine .inl ⟨hfailures.trans hsmooth, ?_, ?_, eventsOf_eq ?_⟩
      · rw [hpropagated]
      · rw [hpropagated]
        rfl
      · rw [hpropagated]
        exact hjournal
    · obtain ⟨before, after, target, hsmooth, hthere, hsplit, hjournal'⟩ := hcut
      refine .inr ⟨before, target, _, after, hsmooth, hthere, hsplit, eventsOf_eq ?_, ?_⟩
      · rw [sweepCategory_eq, hrun]
        exact hjournal'
      · rw [sweepCategory_eq, hrun]

/-- Propagating failures is isolating them, cut at the first.  A category without failures goes the
same way under both policies.  One that isolates failures and has some ends, where it propagates
them, with the error of the first, and the calls up to that delete are all that it makes. -/
theorem propagate_cuts_isolate (b : Backend σ) (authority : Option Knowledge) (config : Config)
    (plan : Plan) (category : Category) (isolating propagating : Policies)
    (hisolate : isolating.of category = .isolate)
    (hpropagate : propagating.of category = .propagate) (t : Trace (σ × List Call))
    {report : Report.Section} :
    let c : Sweep (σ × List Call) := { backend := b.recorded, authority, config, plan }
    let isolated := (c.governed isolating).sweepCategory category t
    let propagated := (c.governed propagating).sweepCategory category t
    isolated.1 = .ok report →
      (report.failures = [] →
        propagated.1 = .ok report ∧ propagated.2.backend = isolated.2.backend ∧
          (c.governed propagating).eventsOf category t =
            (c.governed isolating).eventsOf category t) ∧
      ∀ first rest, report.failures = first :: rest → ∃ before target e after,
        first = { kind := target.kind, id := target.id, message := e.message } ∧
        propagated.1 = .error (.deleteFailed target.kind target.id e) ∧
        failuresOf before = [] ∧
        (c.governed isolating).eventsOf category t =
          before ++ .deletion .owned target (some (.error e)) :: after ∧
        (c.governed propagating).eventsOf category t =
          before ++ [.deletion .owned target (some (.error e))] ∧
        propagated.2.backend.2 = t.backend.2 ++
          (before.filterMap Event.call? ++ [.delete target.kind target.parents target.id]) ∧
        isolated.2.backend.2 = propagated.2.backend.2 ++ after.filterMap Event.call? := by
  intro c isolated propagated hok
  obtain ⟨hfailures, hsame | ⟨before, target, e, after, hsmooth, hthere, hevents, hcut, herror⟩⟩ :=
    c.sweepCategory_cut hisolate hpropagate t hok
  · refine ⟨fun _ => hsame.2, fun first rest hfirst => ?_⟩
    rw [hsame.1] at hfirst
    cases hfirst
  · have hreport : report.failures =
        { kind := target.kind, id := target.id, message := e.message } :: failuresOf after := by
      rw [hfailures, hevents, failuresOf_append, hsmooth, ← List.singleton_append,
        failuresOf_append, failuresOf_failed _ hthere]
      rfl
    have hcalls : propagated.2.backend.2 = t.backend.2 ++
        (before.filterMap Event.call? ++ [.delete target.kind target.parents target.id]) := by
      refine (sweepCategory_calls (c := c.governed propagating) rfl category t).trans ?_
      rw [hcut, List.filterMap_append]
      rfl
    refine ⟨fun hnone => ?_, fun first rest hfirst => ?_⟩
    · rw [hreport] at hnone
      cases hnone
    · rw [hreport] at hfirst
      obtain ⟨rfl, -⟩ := List.cons.inj hfirst
      refine ⟨before, target, e, after, rfl, herror, hsmooth, hevents, hcut, hcalls, ?_⟩
      refine (sweepCategory_calls (c := c.governed isolating) rfl category t).trans ?_
      rw [hcalls, hevents, List.filterMap_append]
      simp [Event.call?]

def refusedProfile : Store :=
  let profile (id : String) : Address := { kind := .qosProfile, parents := [], id }
  { Store.empty with
    objects :=
      [(profile "a", Store.complete (profile "a") (.owned "a")),
       (profile "b", Store.complete (profile "b") (.owned "b"))]
    deleteFailures := [((.qosProfile, "a"), .unauthenticated "expired")] }

/-- By default the refusal of the first profile ends the category, and the second is not asked
for; where the refusal is isolated, the second one goes. -/
theorem refused_profile_ends_policies :
    let c : Sweep (Store × List Call) :=
      { backend := (Store.backend false).recorded, authority := none, config := .default
        plan := .standard }
    let t : Trace (Store × List Call) := .start (refusedProfile, [])
    let isolating : Policies := [(.qosPolicies, .isolate)]
    let failure : FailedDelete :=
      { kind := .qosProfile, id := "a", message := "backend rejected credentials: expired" }
    let report : Report.Section :=
      { Report.Section.fresh .qosPolicies with
        candidates := 2, deleted := 1, failures := [failure] }
    Policies.of isolating .qosPolicies = .isolate ∧ Policies.of [] .qosPolicies = .propagate ∧
      ((c.governed isolating).sweepCategory .qosPolicies t).1 = .ok report ∧
      ∃ (target : Address) (e : BackendError),
        failure = { kind := target.kind, id := target.id, message := e.message } ∧
        ((c.governed []).sweepCategory .qosPolicies t).1 =
          .error (.deleteFailed target.kind target.id e) := by
  intro c t isolating failure report
  have hok : ((c.governed isolating).sweepCategory .qosPolicies t).1 = .ok report := by
    decide +kernel
  obtain ⟨before, target, e, after, hfirst, herror, -⟩ :=
    (propagate_cuts_isolate (Store.backend false) none .default .standard .qosPolicies
      isolating [] rfl rfl t hok).2 failure [] rfl
  exact ⟨rfl, rfl, hok, target, e, hfirst, herror⟩

end Sweep

end NetSweep
