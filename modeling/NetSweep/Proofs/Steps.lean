import NetSweep.Proofs.Changes
import NetSweep.Proofs.TaskInvariants

/-!
# What a step does

A step asks the backend once, or not at all where a dry run withholds a change, and enters that in
the journal.  Finding gives what the answer holds unless the answer ends the category; a change
never does, but for the failed delete of an object that the category answers for under `propagate`.
-/

namespace NetSweep

def Kind.contained : List Kind :=
  [.segmentDhcpStaticBinding, .segmentPort, .segmentPortSecurityBinding,
   .segmentPortDiscoveryBinding, .segmentPortQosBinding, .tier1LocaleService,
   .tier1SegmentInterface, .tier1NatRule, .tier1StaticRoute]

theorem Kind.mem_contained_iff {kind : Kind} :
    kind ∈ contained ↔ kind.parent?.isSome = true := by
  cases kind <;> decide

namespace Cleanup

/-- The error that ends a category on an event, if the event ends it.  Tolerated are a missing
container, and in the search for DHCP ports that nothing is there or the manager API out of
reach. -/
def Event.fatal? : Event → Option CleanupError
  | .listed kind _ (.error e) =>
    if e.isNotFound = true ∧ kind ∈ Kind.contained then none else some (.listFailed kind e)
  | .searched .logicalPort _ (.error (.notFound ..)) => none
  | .searched .logicalPort _ (.error (.passthroughDisabled _)) => none
  | .searched kind _ (.error e) => some (.listFailed kind e)
  | _ => none

variable {σ : Type}

/-- How a call ends the task that makes it, where it gives the task what it is made for. -/
def Event.ending {α : Type} (event : Event) (found : α) : Except CleanupError α :=
  match event.fatal? with
  | some e => .error e
  | none => .ok found

/-- The task asks once, enters the answer, and gives what the answer holds unless that ends the
category. -/
def Task.Reads (t : Task σ (List Resource)) (operation : σ → Answer (List Resource) × σ)
    (event : Answer (List Resource) → Event) : Prop :=
  ∀ r, ∃ log, t r =
    (match (event (operation r.backend).1).fatal? with
      | some e => .error e
      | none => .ok (operation r.backend).1.items,
    { r with
      backend := (operation r.backend).2
      journal := r.journal ++ [event (operation r.backend).1]
      log })

/-- The task asks for a change, or withholds it, enters that, and ends well whatever comes of it. -/
def Task.Changes (t : Task σ Unit) (event : σ → Event) (after : σ → σ) : Prop :=
  ∀ r, ∃ log, t r = (.ok (), { r with
    backend := after r.backend
    journal := r.journal ++ [event r.backend]
    log })

/-- How the delete of an object that the category answers for ends, and what becomes of the
report. -/
inductive Recorded (policy : FailurePolicy) (target : Address) (report : Report.Section) :
    Option (Answer Unit) → Except CleanupError Unit → Report.Section → Prop where
  | withheld : Recorded policy target report none (.ok ())
      { report with candidates := report.candidates + 1 }
  | deleted : Recorded policy target report (some (.ok ())) (.ok ())
      { report with candidates := report.candidates + 1, deleted := report.deleted + 1 }
  | gone {e : BackendError} (hgone : e.isNotFound = true) :
      Recorded policy target report (some (.error e)) (.ok ())
        { report with
          candidates := report.candidates + 1
          alreadyGone := report.alreadyGone + 1 }
  | isolated {e : BackendError} (hthere : e.isNotFound = false) (hpolicy : policy = .isolate) :
      Recorded policy target report (some (.error e)) (.ok ())
        { report with
          candidates := report.candidates + 1
          failures := report.failures ++
            [{ kind := target.kind, id := target.id, message := e.message }] }
  | propagated {e : BackendError} (hthere : e.isNotFound = false)
      (hpolicy : policy = .propagate) :
      Recorded policy target report (some (.error e))
        (.error (.deleteFailed target.kind target.id e))
        { report with candidates := report.candidates + 1 }

namespace Setting

variable (s : Setting σ) {kind : Kind} {parents : List String} {id : String}
  {tags : List TagPredicate}

/-! ## Finding -/

theorem askList_eq (r : Run σ) : s.askList kind parents r =
    (.ok (s.backend.list kind parents r.backend).1,
      { r with
        backend := (s.backend.list kind parents r.backend).2
        journal := r.journal ++
          [.listed kind parents (s.backend.list kind parents r.backend).1] }) := rfl

theorem askSearch_eq (r : Run σ) : s.askSearch kind tags r =
    (.ok (s.backend.search kind tags r.backend).1,
      { r with
        backend := (s.backend.search kind tags r.backend).2
        journal := r.journal ++
          [.searched kind tags (s.backend.search kind tags r.backend).1] }) := rfl

theorem list_reads (hplace : kind.parent? = none) :
    (s.list kind parents).Reads (s.backend.list kind parents) (.listed kind parents) := by
  have houter : kind ∉ Kind.contained := by simp [Kind.mem_contained_iff, hplace]
  intro r
  refine ⟨r.log, ?_⟩
  rw [list, Task.bind_apply, askList_eq]
  cases (s.backend.list kind parents r.backend).1 with
  | ok found => rfl
  | error e => simp [Event.fatal?, houter]

theorem listOrNone_reads (hplace : kind.parent?.isSome = true) :
    (s.listOrNone kind parents).Reads (s.backend.list kind parents) (.listed kind parents) := by
  have hinner : kind ∈ Kind.contained := Kind.mem_contained_iff.2 hplace
  intro r
  rw [listOrNone, Task.bind_apply, askList_eq]
  cases (s.backend.list kind parents r.backend).1 with
  | ok found => exact ⟨r.log, rfl⟩
  | error e =>
    cases hgone : e.isNotFound with
    | true =>
      simp only [Event.fatal?, hgone, hinner, and_self, if_true]
      exact ⟨_, rfl⟩
    | false => exact ⟨r.log, by simp [Event.fatal?, hgone]⟩

theorem searchAll_reads (hkind : kind ≠ .logicalPort) :
    (s.searchAll kind tags).Reads (s.backend.search kind tags) (.searched kind tags) := by
  intro r
  refine ⟨r.log, ?_⟩
  rw [searchAll, Task.bind_apply, askSearch_eq]
  cases (s.backend.search kind tags r.backend).1 with
  | ok found => simp [Event.fatal?, Answer.items]
  | error e => simp [Event.fatal?, hkind]

theorem findDhcpPorts_reads (segment : Resource) : (s.findDhcpPorts segment).Reads
    (s.backend.search .logicalPort [s.config.marker, .exact networkScope segment.id])
    (.searched .logicalPort [s.config.marker, .exact networkScope segment.id]) := by
  intro r
  rw [findDhcpPorts, Task.bind_apply, askSearch_eq]
  rcases (s.backend.search .logicalPort _ r.backend).1 with e | found
  · cases e <;> exact ⟨_, rfl⟩
  · exact ⟨_, rfl⟩

/-! ## Changing -/

/-- The answer to a delete; none where it is withheld. -/
def deleteAnswer (target : Address) (b : σ) : Option (Answer Unit) :=
  if s.config.dryRun then none
  else some (s.backend.delete target.kind target.parents target.id b).1

def afterDelete (target : Address) (b : σ) : σ :=
  if s.config.dryRun then b else (s.backend.delete target.kind target.parents target.id b).2

def updateAnswer (target : Address) (body : Json) (b : σ) : Option (Answer Unit) :=
  if s.config.dryRun then none
  else some (s.backend.patch target.kind target.parents target.id body b).1

def afterUpdate (target : Address) (body : Json) (b : σ) : σ :=
  if s.config.dryRun then b else (s.backend.patch target.kind target.parents target.id body b).2

theorem askDelete_eq (role : Role) (target : Address) (r : Run σ) : s.askDelete role target r =
    (.ok (s.deleteAnswer target r.backend),
      { r with
        backend := s.afterDelete target r.backend
        journal := r.journal ++ [.deletion role target (s.deleteAnswer target r.backend)] }) := by
  unfold askDelete deleteAnswer afterDelete
  split <;> rfl

theorem askUpdate_eq (target : Address) (body : Json) (r : Run σ) : s.askUpdate target body r =
    (.ok (s.updateAnswer target body r.backend),
      { r with
        backend := s.afterUpdate target body r.backend
        journal := r.journal ++ [.update target body (s.updateAnswer target body r.backend)] }) := by
  unfold askUpdate updateAnswer afterUpdate
  split <;> rfl

theorem deleteOwned_effect (kind : Kind) (parents : List String) (id : String) (r : Run σ) :
    ∃ answer log result report, s.deleteAnswer { kind, parents, id } r.backend = answer ∧
      s.deleteOwned kind parents id r =
        (result, { r with
          backend := s.afterDelete { kind, parents, id } r.backend
          journal := r.journal ++ [.deletion .owned { kind, parents, id } answer]
          log, report }) ∧
      Recorded s.policy { kind, parents, id } r.report answer result report := by
  rw [deleteOwned, Task.bind_apply, tally, Task.modify_apply]
  dsimp only
  rw [Task.bind_apply, askDelete_eq]
  rcases s.deleteAnswer { kind, parents, id } r.backend with _ | e | ⟨⟩
  · exact ⟨_, _, _, _, rfl, rfl, .withheld⟩
  · dsimp only
    cases hgone : e.isNotFound with
    | true => exact ⟨_, _, _, _, rfl, rfl, .gone hgone⟩
    | false =>
      cases hpolicy : s.policy with
      | isolate => exact ⟨_, _, _, _, rfl, rfl, .isolated hgone rfl⟩
      | propagate => exact ⟨_, _, _, _, rfl, rfl, .propagated hgone rfl⟩
  · exact ⟨_, _, _, _, rfl, rfl, .deleted⟩

theorem deleteAuxiliary_changes (kind : Kind) (parents : List String) (id : String) :
    (s.deleteAuxiliary kind parents id).Changes
      (fun b => .deletion .auxiliary { kind, parents, id } (s.deleteAnswer { kind, parents, id } b))
      (s.afterDelete { kind, parents, id }) := by
  intro r
  beta_reduce
  rw [deleteAuxiliary, Task.bind_apply, askDelete_eq]
  rcases s.deleteAnswer { kind, parents, id } r.backend with _ | e | ⟨⟩
  · exact ⟨_, rfl⟩
  · dsimp only
    split <;> exact ⟨_, rfl⟩
  · exact ⟨_, rfl⟩

theorem deleteShared_changes (kind : Kind) (parents : List String) (id : String) :
    (s.deleteShared kind parents id).Changes
      (fun b => .deletion .shared { kind, parents, id } (s.deleteAnswer { kind, parents, id } b))
      (s.afterDelete { kind, parents, id }) := by
  intro r
  beta_reduce
  rw [deleteShared, Task.bind_apply, askDelete_eq]
  rcases s.deleteAnswer { kind, parents, id } r.backend with _ | e | ⟨⟩
  · exact ⟨_, rfl⟩
  · dsimp only
    split
    · exact ⟨_, rfl⟩
    · split <;> exact ⟨_, rfl⟩
  · exact ⟨_, rfl⟩

theorem update_changes (kind : Kind) (parents : List String) (id : String) (body : Json) :
    (s.update kind parents id body).Changes
      (fun b => .update { kind, parents, id } body (s.updateAnswer { kind, parents, id } body b))
      (s.afterUpdate { kind, parents, id } body) := by
  intro r
  beta_reduce
  rw [update, Task.bind_apply, askUpdate_eq]
  rcases s.updateAnswer { kind, parents, id } body r.backend with _ | e | ⟨⟩ <;> exact ⟨_, rfl⟩

/-! ## Journal and backend -/

/-- Every call of the category leads from journals and backends with the property to such ones
again, and so does every change that a dry run withholds. -/
structure CallsKeep (category : Category) (I : List Event → σ → Prop) : Prop where
  list : ∀ kind parents journal x, s.Reaches kind → I journal x →
    I (journal ++ [.listed kind parents (s.backend.list kind parents x).1])
      (s.backend.list kind parents x).2
  search : ∀ kind tags journal x, s.Reaches kind → I journal x →
    I (journal ++ [.searched kind tags (s.backend.search kind tags x).1])
      (s.backend.search kind tags x).2
  delete : ∀ role (target : Address) journal x, target.kind ∈ category.kinds →
    s.Reaches target.kind → I journal x →
    I (journal ++ [.deletion role target
        (some (s.backend.delete target.kind target.parents target.id x).1)])
      (s.backend.delete target.kind target.parents target.id x).2
  update : ∀ (target : Address) body journal x, body.Withdraws → target.kind ∈ category.altered →
    s.Reaches target.kind → I journal x →
    I (journal ++ [.update target body
        (some (s.backend.patch target.kind target.parents target.id body x).1)])
      (s.backend.patch target.kind target.parents target.id body x).2
  withheldDelete : ∀ role (target : Address) journal x, target.kind ∈ category.kinds →
    s.Reaches target.kind → I journal x → I (journal ++ [.deletion role target none]) x
  withheldUpdate : ∀ (target : Address) body journal x, target.kind ∈ category.altered →
    s.Reaches target.kind → I journal x → I (journal ++ [.update target body none]) x

end Setting

variable {I : List Event → σ → Prop}

theorem Task.Changes.keeps {t : Task σ Unit} {event : σ → Event} {after : σ → σ}
    (h : t.Changes event after)
    (hI : ∀ journal x, I journal x → I (journal ++ [event x]) (after x)) :
    Task.Keeps (fun r => I r.journal r.backend) t := by
  intro r hr
  obtain ⟨log, hrun⟩ := h r
  rw [hrun]
  exact hI r.journal r.backend hr

namespace Setting.CallsKeep

variable {s : Setting σ} {category : Category}

theorem afterDelete (h : s.CallsKeep category I) (role : Role) {target : Address}
    (hkind : target.kind ∈ category.kinds) (hreach : s.Reaches target.kind) (journal : List Event)
    (x : σ) (hx : I journal x) :
    I (journal ++ [.deletion role target (s.deleteAnswer target x)]) (s.afterDelete target x) := by
  rw [deleteAnswer, Setting.afterDelete]
  split
  · exact h.withheldDelete role target journal x hkind hreach hx
  · exact h.delete role target journal x hkind hreach hx

theorem afterUpdate (h : s.CallsKeep category I) {target : Address} {body : Json}
    (hbody : body.Withdraws) (hkind : target.kind ∈ category.altered)
    (hreach : s.Reaches target.kind) (journal : List Event) (x : σ) (hx : I journal x) :
    I (journal ++ [.update target body (s.updateAnswer target body x)])
      (s.afterUpdate target body x) := by
  rw [updateAnswer, Setting.afterUpdate]
  split
  · exact h.withheldUpdate target body journal x hkind hreach hx
  · exact h.update target body journal x hbody hkind hreach hx

theorem steps (h : s.CallsKeep category I) :
    s.StepsKeep category fun r => I r.journal r.backend where
  note _ _ hr := hr
  skip _ _ _ hr := hr
  list kind parents hreach r hr := h.list kind parents r.journal r.backend hreach hr
  search kind tags hreach r hr := h.search kind tags r.journal r.backend hreach hr
  deleteOwned kind parents id hkind hreach r hr := by
    obtain ⟨answer, log, result, report, rfl, hrun, -⟩ := s.deleteOwned_effect kind parents id r
    rw [hrun]
    exact h.afterDelete .owned hkind hreach r.journal r.backend hr
  deleteAuxiliary kind parents id hkind hreach :=
    (s.deleteAuxiliary_changes kind parents id).keeps (h.afterDelete .auxiliary hkind hreach)
  deleteShared kind parents id hkind hreach :=
    (s.deleteShared_changes kind parents id).keeps (h.afterDelete .shared hkind hreach)
  update id body hbody kind hkind hreach :=
    (s.update_changes kind [] id body).keeps (h.afterUpdate hbody hkind hreach)

end Setting.CallsKeep

end Cleanup

namespace Sweep

open Cleanup

variable {σ : Type} (c : Sweep σ) (category : Category) (t : Trace σ)

def eventsOf : List Event := (c.sweepCategory category t).2.journal.drop t.journal.length

variable {c category t}

theorem eventsOf_eq {events : List Event}
    (h : (c.sweepCategory category t).2.journal = t.journal ++ events) :
    c.eventsOf category t = events := by
  rw [eventsOf, h, List.drop_left]

/-- What the calls of every category keep, each category keeps, and so does a whole run. -/
theorem keeps_of_calls {I : List Event → σ → Prop}
    (h : ∀ category, (c.setting category).CallsKeep category I) (ht : I t.journal t.backend) :
    (∀ category, I (c.sweepCategory category t).2.journal (c.sweepCategory category t).2.backend) ∧
      I (c.sweepAll t).2.journal (c.sweepAll t).2.backend :=
  ⟨fun category => sweepCategory_preserves (h category).steps ht,
    sweepAll_preserves (fun step _ _ ht' => sweepCategory_preserves (h step.category).steps ht') ht⟩

end Sweep

end NetSweep
