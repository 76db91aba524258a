import NetSweep.Proofs.DryRun
import NetSweep.Proofs.Steps

/-!
# Transcripts

A backend can be made to keep every call with the answer it gave.  Cleanup does not notice: the run
over such a backend is the run over the backend itself, step by step, and what is kept of it are
the events of the journal.  So the journal says what the backend was asked, and what it answered.
-/

namespace NetSweep

inductive Reply where
  | version (answer : Answer String)
  | object (answer : Answer Resource)
  | objects (answer : Answer (List Resource))
  | done (answer : Answer Unit)

structure Exchange where
  call : Call
  reply : Reply

/-- A backend that also keeps the calls made of it with its answers, oldest first. -/
def Backend.transcribed {σ : Type} (b : Backend σ) : Backend (σ × List Exchange) :=
  let keep {α : Type} (call : Call) (reply : Answer α → Reply) (operation : σ → Answer α × σ)
      (x : σ × List Exchange) : Answer α × (σ × List Exchange) :=
    let (answer, next) := operation x.1
    (answer, next, x.2 ++ [{ call, reply := reply answer }])
  { allowsPassthrough := b.allowsPassthrough
    version := keep .version .version b.version
    list kind parents := keep (.list kind parents) .objects (b.list kind parents)
    get kind parents id := keep (.get kind parents id) .object (b.get kind parents id)
    delete kind parents id := keep (.delete kind parents id) .done (b.delete kind parents id)
    patch kind parents id body :=
      keep (.patch kind parents id body) .done (b.patch kind parents id body)
    search kind tags := keep (.search kind tags) .objects (b.search kind tags) }

namespace Cleanup

variable {σ α β : Type}

/-- The call that an event stands for, with its answer; none if it was withheld. -/
def Event.exchange? : Event → Option Exchange
  | .listed kind parents answer => some { call := .list kind parents, reply := .objects answer }
  | .searched kind tags answer => some { call := .search kind tags, reply := .objects answer }
  | .deletion _ target (some answer) =>
    some { call := .delete target.kind target.parents target.id, reply := .done answer }
  | .update target body (some answer) =>
    some { call := .patch target.kind target.parents target.id body, reply := .done answer }
  | .deletion _ _ none | .update _ _ none => none

/-- The call of the backend that an event stands for; none if it was withheld. -/
def Event.call? : Event → Option Call
  | .listed kind parents _ => some (.list kind parents)
  | .searched kind tags _ => some (.search kind tags)
  | .deletion _ target (some _) => some (.delete target.kind target.parents target.id)
  | .update target body (some _) => some (.patch target.kind target.parents target.id body)
  | .deletion _ _ none | .update _ _ none => none

def Trace.keeping (t : Trace σ) (kept : List Exchange) : Trace (σ × List Exchange) :=
  { backend := (t.backend, kept), journal := t.journal, log := t.log }

def Run.keeping (r : Run σ) (kept : List Exchange) : Run (σ × List Exchange) :=
  { r.toTrace.keeping kept with report := r.report }

/-! ## Steps -/

/-- The second task does what the first does, and keeps what the first adds to the journal. -/
def Task.Transcribes (t : Task σ α) (u : Task (σ × List Exchange) α) : Prop :=
  ∀ (r : Run σ) (kept : List Exchange), ∃ events, (t r).2.journal = r.journal ++ events ∧
    u (r.keeping kept) = ((t r).1, (t r).2.keeping (kept ++ events.filterMap Event.exchange?))

namespace Task.Transcribes

/-- A task that adds nothing to the journal. -/
theorem of_silent {t : Task σ α} {u : Task (σ × List Exchange) α}
    (hjournal : ∀ r, (t r).2.journal = r.journal)
    (hsame : ∀ r kept, u (r.keeping kept) = ((t r).1, (t r).2.keeping kept)) :
    Transcribes t u := by
  intro r kept
  refine ⟨[], by rw [hjournal, List.append_nil], ?_⟩
  rw [hsame, List.filterMap_nil, List.append_nil]

theorem pure (a : α) : Transcribes (Pure.pure a : Task σ α) (Pure.pure a) :=
  .of_silent (fun _ => rfl) fun _ _ => rfl

theorem fail (e : CleanupError) : Transcribes (.fail e : Task σ α) (.fail e) :=
  .of_silent (fun _ => rfl) fun _ _ => rfl

theorem note (record : Log.Record) :
    Transcribes (Setting.note record : Task σ Unit) (Setting.note record) :=
  .of_silent (fun _ => rfl) fun _ _ => rfl

theorem tally (f : Report.Section → Report.Section) :
    Transcribes (Setting.tally f : Task σ Unit) (Setting.tally f) :=
  .of_silent (fun _ => rfl) fun _ _ => rfl

/-- An event for which nothing was asked leaves no trace in the transcript. -/
theorem enter {event : Event} (h : event.exchange? = none) :
    Transcribes (Setting.enter event : Task σ Unit) (Setting.enter event) := by
  intro r kept
  refine ⟨[event], rfl, ?_⟩
  rw [List.filterMap_cons_none h, List.filterMap_nil, List.append_nil]
  rfl

/-- An operation is transcribed if it is kept with its answer as the event says. -/
theorem ask {operation : σ → Answer α × σ}
    {operation' : σ × List Exchange → Answer α × (σ × List Exchange)} {event : Answer α → Event}
    (h : ∀ x kept, operation' (x, kept) = ((operation x).1, (operation x).2,
      kept ++ [event (operation x).1].filterMap Event.exchange?)) :
    Transcribes (Setting.ask operation event) (Setting.ask operation' event) := by
  intro r kept
  refine ⟨[event (operation r.backend).1], rfl, ?_⟩
  have hasked : operation' (r.keeping kept).backend = _ := h r.backend kept
  rw [Setting.ask, hasked]
  rfl

theorem bind {t : Task σ α} {u : Task (σ × List Exchange) α} {f : α → Task σ β}
    {g : α → Task (σ × List Exchange) β} (ht : Transcribes t u)
    (hf : ∀ a, Transcribes (f a) (g a)) : Transcribes (t >>= f) (u >>= g) := by
  intro r kept
  obtain ⟨events, hjournal, hrun⟩ := ht r kept
  rw [Task.bind_apply, Task.bind_apply, hrun]
  rcases htr : t r with ⟨e | a, r'⟩
  · rw [htr] at hjournal
    exact ⟨events, hjournal, rfl⟩
  · rw [htr] at hjournal
    obtain ⟨later, hlater, hrest⟩ := hf a r' (kept ++ events.filterMap Event.exchange?)
    refine ⟨events ++ later, ?_, ?_⟩
    · rw [hlater, hjournal, List.append_assoc]
    · rw [List.filterMap_append, ← List.append_assoc]
      exact hrest

end Task.Transcribes

namespace Setting

variable (s : Setting σ)

def transcribed : Setting (σ × List Exchange) :=
  s.onto s.backend.transcribed s.config.policies s.policy

theorem transcribes_askList (kind : Kind) (parents : List String) :
    Task.Transcribes (s.askList kind parents) (s.transcribed.askList kind parents) :=
  .ask fun _ _ => rfl

theorem transcribes_askSearch (kind : Kind) (tags : List TagPredicate) :
    Task.Transcribes (s.askSearch kind tags) (s.transcribed.askSearch kind tags) :=
  .ask fun _ _ => rfl

theorem transcribes_askDelete (role : Role) (target : Address) :
    Task.Transcribes (s.askDelete role target) (s.transcribed.askDelete role target) := by
  have hdry : s.transcribed.config.dryRun = s.config.dryRun := rfl
  rw [askDelete, askDelete, hdry]
  split
  · exact (Task.Transcribes.enter rfl).bind fun _ => .pure none
  · exact (Task.Transcribes.ask fun _ _ => rfl).bind fun answer => .pure (some answer)

theorem transcribes_askUpdate (target : Address) (body : Json) :
    Task.Transcribes (s.askUpdate target body) (s.transcribed.askUpdate target body) := by
  have hdry : s.transcribed.config.dryRun = s.config.dryRun := rfl
  rw [askUpdate, askUpdate, hdry]
  split
  · exact (Task.Transcribes.enter rfl).bind fun _ => .pure none
  · exact (Task.Transcribes.ask fun _ _ => rfl).bind fun answer => .pure (some answer)

/-- Every step over the backend that keeps a transcript is the step over the backend. -/
theorem transcribing_steps (category : Category) :
    s.StepsRelate s.transcribed category fun {_} => Task.Transcribes where
  pure := .pure
  bind := .bind
  note := .note
  skip _ _ := .tally _
  list kind parents _ _ := (s.transcribes_askList kind parents).bind fun answer => by
    cases answer with
    | ok resources => exact .pure resources
    | error e => exact .fail _
  listOrNone kind parents _ _ := (s.transcribes_askList kind parents).bind fun answer => by
    cases answer with
    | ok resources => exact .pure resources
    | error e =>
      dsimp only
      split
      · exact (Task.Transcribes.note _).bind fun _ => .pure []
      · exact .fail _
  searchAll kind tags _ _ := (s.transcribes_askSearch kind tags).bind fun answer => by
    cases answer with
    | ok found => exact .pure found
    | error e => exact .fail _
  findDhcpPorts segment _ := (s.transcribes_askSearch _ _).bind fun answer => by
    rcases answer with e | found
    · cases e
      case notFound => exact .pure []
      case passthroughDisabled => exact (Task.Transcribes.note _).bind fun _ => .pure []
      all_goals exact .fail _
    · exact .pure found
  deleteOwned kind parents id _ _ := (Task.Transcribes.tally _).bind fun _ =>
    (s.transcribes_askDelete .owned { kind, parents, id }).bind fun answer => by
      rcases answer with _ | e | ⟨⟩
      · exact .note _
      · dsimp only
        split
        · exact (Task.Transcribes.note _).bind fun _ => .tally _
        · have hpolicy : s.transcribed.policy = s.policy := rfl
          rw [hpolicy]
          cases s.policy with
          | isolate => exact (Task.Transcribes.note _).bind fun _ => .tally _
          | propagate => exact .fail _
      · exact (Task.Transcribes.note _).bind fun _ => .tally _
  deleteAuxiliary kind parents id _ _ :=
    (s.transcribes_askDelete .auxiliary { kind, parents, id }).bind fun answer => by
      rcases answer with _ | e | ⟨⟩
      · exact .note _
      · dsimp only
        split
        · exact .pure ()
        · exact .note _
      · exact .note _
  deleteShared kind parents id _ _ :=
    (s.transcribes_askDelete .shared { kind, parents, id }).bind fun answer => by
      rcases answer with _ | e | ⟨⟩
      · exact .note _
      · dsimp only
        split
        · exact .pure ()
        · split
          · exact .note _
          · exact .note _
      · exact .note _
  update id body _ kind _ _ :=
    (s.transcribes_askUpdate { kind, parents := [], id } body).bind fun answer => by
      rcases answer with _ | e | ⟨⟩
      · exact .note _
      · exact .note _
      · exact .pure ()

/-! ## Calls alone -/

/-- Journal and calls have grown in step: what the one has more is what the backend was asked. -/
def InStep (before : List Event) (calls : List Call) (journal : List Event)
    (calls' : List Call) : Prop :=
  ∃ events, journal = before ++ events ∧ calls' = calls ++ events.filterMap Event.call?

theorem InStep.add {before journal : List Event} {calls calls' calls'' : List Call}
    (h : InStep before calls journal calls') {event : Event}
    (hcalls : calls'' = calls' ++ [event].filterMap Event.call?) :
    InStep before calls (journal ++ [event]) calls'' := by
  obtain ⟨events, rfl, rfl⟩ := h
  refine ⟨events ++ [event], List.append_assoc .., ?_⟩
  rw [hcalls, List.filterMap_append, List.append_assoc]

theorem inStep_calls {b : Backend σ} {s : Setting (σ × List Call)}
    (hb : s.backend = b.recorded) (category : Category) (before : List Event)
    (calls : List Call) :
    s.CallsKeep category fun journal x => InStep before calls journal x.2 where
  list _ _ _ _ _ h := hb ▸ h.add rfl
  search _ _ _ _ _ h := hb ▸ h.add rfl
  delete _ _ _ _ _ _ h := hb ▸ h.add rfl
  update _ _ _ _ _ _ _ h := hb ▸ h.add rfl
  withheldDelete _ _ _ _ _ _ h := h.add (List.append_nil _).symm
  withheldUpdate _ _ _ _ _ _ h := h.add (List.append_nil _).symm

end Setting

end Cleanup

namespace Sweep

open Cleanup

variable {σ : Type} (c : Sweep σ)

def transcribed : Sweep (σ × List Exchange) :=
  { backend := c.backend.transcribed, authority := c.authority, config := c.config, plan := c.plan }

theorem exists_sweepCategory_transcribed (category : Category) (t : Trace σ)
    (kept : List Exchange) :
    ∃ events, (c.sweepCategory category t).2.journal = t.journal ++ events ∧
      c.transcribed.sweepCategory category (t.keeping kept) =
        ((c.sweepCategory category t).1, (c.sweepCategory category t).2.keeping
          (kept ++ events.filterMap Event.exchange?)) := by
  obtain ⟨events, hjournal, hrun⟩ := ((c.setting category).transcribing_steps category).sweep rfl
    (c.begun category t) kept
  have hkept : (c.transcribed.setting category).sweep category
      (c.transcribed.begun category (t.keeping kept)) = _ := hrun
  refine ⟨events, ?_⟩
  rw [sweepCategory_eq, sweepCategory_eq, hkept]
  rcases hend : (c.setting category).sweep category (c.begun category t) with ⟨e | ⟨⟩, r⟩
  · rw [hend] at hjournal
    exact ⟨hjournal, rfl⟩
  · rw [hend] at hjournal
    exact ⟨hjournal, rfl⟩

/-- Keeping a transcript changes nothing about the cleanup of a category, and what is kept are the
calls and answers in the journal. -/
theorem sweepCategory_transcribed (category : Category) (t : Trace σ) (kept : List Exchange) :
    c.transcribed.sweepCategory category (t.keeping kept) =
      ((c.sweepCategory category t).1, (c.sweepCategory category t).2.keeping
        (kept ++ (c.eventsOf category t).filterMap Event.exchange?)) := by
  obtain ⟨events, hjournal, hrun⟩ := c.exists_sweepCategory_transcribed category t kept
  rw [eventsOf_eq hjournal, hrun]

theorem runSteps_transcribed (steps : List Plan.Step) (t : Trace σ) (kept : List Exchange) :
    ∃ events, (c.runSteps steps t).2.journal = t.journal ++ events ∧
      c.transcribed.runSteps steps (t.keeping kept) =
        ((c.runSteps steps t).1, (c.runSteps steps t).2.keeping
          (kept ++ events.filterMap Event.exchange?)) := by
  induction steps generalizing t kept with
  | nil => exact ⟨[], (List.append_nil _).symm, by rw [List.filterMap_nil, List.append_nil]; rfl⟩
  | cons step steps ih =>
    obtain ⟨events, hjournal, hrun⟩ := c.exists_sweepCategory_transcribed step.category t kept
    rw [runSteps, runSteps, hrun]
    rcases hstep : c.sweepCategory step.category t with ⟨e | report, t'⟩
    · rw [hstep] at hjournal
      exact ⟨events, hjournal, rfl⟩
    · rw [hstep] at hjournal
      obtain ⟨later, hlater, hrest⟩ := ih t' (kept ++ events.filterMap Event.exchange?)
      refine ⟨events ++ later, ?_⟩
      dsimp only at hjournal ⊢
      rw [hrest, List.filterMap_append, ← List.append_assoc, ← List.append_assoc, ← hjournal]
      rcases hmore : c.runSteps steps t' with ⟨e | reports, t''⟩
      · rw [hmore] at hlater
        exact ⟨hlater, rfl⟩
      · rw [hmore] at hlater
        exact ⟨hlater, rfl⟩

/-- Keeping a transcript changes nothing about a whole run either. -/
theorem sweepAll_transcribed (t : Trace σ) (kept : List Exchange) :
    ∃ events, (c.sweepAll t).2.journal = t.journal ++ events ∧
      c.transcribed.sweepAll (t.keeping kept) =
        ((c.sweepAll t).1, (c.sweepAll t).2.keeping
          (kept ++ events.filterMap Event.exchange?)) := by
  obtain ⟨events, hjournal, hrun⟩ := c.runSteps_transcribed c.plan.steps (noted c.starting t) kept
  have hkept : c.transcribed.runSteps c.transcribed.plan.steps
      (noted c.transcribed.starting (t.keeping kept)) = _ := hrun
  refine ⟨events, ?_⟩
  rw [sweepAll, sweepAll, hkept]
  rcases hend : c.runSteps c.plan.steps (noted c.starting t) with ⟨e | reports, t'⟩
  · rw [hend] at hjournal
    exact ⟨hjournal, rfl⟩
  · rw [hend] at hjournal
    exact ⟨hjournal, rfl⟩

/-- The calls of a category, and those of a whole run, are those of their events. -/
theorem sweep_inStep {b : Backend σ} {c : Sweep (σ × List Call)} (hb : c.backend = b.recorded)
    (t : Trace (σ × List Call)) :
    (∀ category, Setting.InStep t.journal t.backend.2 (c.sweepCategory category t).2.journal
      (c.sweepCategory category t).2.backend.2) ∧
    Setting.InStep t.journal t.backend.2 (c.sweepAll t).2.journal
      (c.sweepAll t).2.backend.2 :=
  keeps_of_calls
    (fun category => Setting.inStep_calls hb category t.journal t.backend.2)
    ⟨[], (List.append_nil _).symm, (List.append_nil _).symm⟩

theorem sweepCategory_calls {b : Backend σ} {c : Sweep (σ × List Call)}
    (hb : c.backend = b.recorded) (category : Category) (t : Trace (σ × List Call)) :
    (c.sweepCategory category t).2.backend.2 =
      t.backend.2 ++ (c.eventsOf category t).filterMap Event.call? := by
  obtain ⟨events, hjournal, hcalls⟩ := (sweep_inStep hb t).1 category
  rw [eventsOf_eq hjournal, hcalls]

end Sweep

end NetSweep
