import NetSweep.Proofs.Transcripts

/-!
# When a category ends early

Where failures are isolated, nothing but a list or search ends a category, and the first that is
not tolerated does so at once.  The journal of a run is a transcript of it, so what holds of the
journal holds of what the backend was asked, and of what it answered.
-/

namespace NetSweep

namespace Cleanup

variable {σ : Type}

theorem Event.fatal?_eq_some {event : Event} {e : CleanupError} (h : event.fatal? = some e) :
    ∃ kind cause, e = .listFailed kind cause ∧
      ((∃ parents, event = .listed kind parents (.error cause)) ∨
        ∃ tags, event = .searched kind tags (.error cause)) := by
  unfold Event.fatal? at h
  split at h
  · rename_i kind parents cause
    split at h
    · cases h
    · exact ⟨kind, cause, (Option.some.inj h).symm, .inl ⟨parents, rfl⟩⟩
  · cases h
  · cases h
  · rename_i kind tags cause _ _
    exact ⟨kind, cause, (Option.some.inj h).symm, .inr ⟨tags, rfl⟩⟩
  · cases h

/-- Events were added to the journal, and none of them ends a category. -/
def Run.Unbroken (before : List Event) (r : Run σ) : Prop :=
  ∃ events, r.journal = before ++ events ∧ ∀ event ∈ events, event.fatal? = none

/-- Events were added to the journal, of which the last, and no other, ends a category. -/
def Run.Broken (before : List Event) (e : CleanupError) (r : Run σ) : Prop :=
  ∃ events last, r.journal = before ++ (events ++ [last]) ∧
    (∀ event ∈ events, event.fatal? = none) ∧ last.fatal? = some e

theorem Run.Unbroken.add {before : List Event} {r r' : Run σ} (h : r.Unbroken before)
    {event : Event} (hevent : event.fatal? = none) (hr : r'.journal = r.journal ++ [event]) :
    r'.Unbroken before := by
  obtain ⟨events, hjournal, hevents⟩ := h
  refine ⟨events ++ [event], ?_, fun event' hmem => ?_⟩
  · rw [hr, hjournal, List.append_assoc]
  · rcases List.mem_append.1 hmem with hmem | hmem
    · exact hevents event' hmem
    · exact List.mem_singleton.1 hmem ▸ hevent

theorem Task.Reads.guards {t : Task σ (List Resource)}
    {operation : σ → Answer (List Resource) × σ} {event : Answer (List Resource) → Event}
    (h : t.Reads operation event) (before : List Event) :
    Task.Guards (Run.Unbroken before) (Run.Broken before) t := by
  intro r hr
  obtain ⟨log, htr⟩ := h r
  rw [htr]
  cases hfatal : (event (operation r.backend).1).fatal? with
  | none => exact hr.add hfatal rfl
  | some e =>
    obtain ⟨events, hjournal, hevents⟩ := hr
    refine ⟨events, event (operation r.backend).1, ?_, hevents, hfatal⟩
    rw [← List.append_assoc, ← hjournal]

theorem Task.Changes.guards {t : Task σ Unit} {event : σ → Event} {after : σ → σ}
    (h : t.Changes event after) (hevent : ∀ x, (event x).fatal? = none) (before : List Event) :
    Task.Guards (Run.Unbroken before) (Run.Broken before) t := by
  intro r hr
  obtain ⟨log, htr⟩ := h r
  rw [htr]
  exact hr.add (hevent r.backend) rfl

namespace Setting

variable {s : Setting σ}

theorem isolated_steps (hisolate : s.policy = .isolate) (category : Category)
    (before : List Event) :
    s.StepsGuard category (Run.Unbroken before) (Run.Broken before) where
  note _ _ h := h
  skip _ _ _ h := h
  list kind parents hplace _ := (s.list_reads hplace).guards before
  listOrNone kind parents hplace _ := (s.listOrNone_reads hplace).guards before
  searchAll kind tags hkind _ := by
    have hpolicy : ∀ kind ∈ Plan.firewallKinds, kind ≠ .logicalPort := by decide
    exact (s.searchAll_reads (hpolicy kind hkind)).guards before
  findDhcpPorts segment _ := (s.findDhcpPorts_reads segment).guards before
  deleteOwned kind parents id _ _ := by
    intro r hr
    obtain ⟨answer, log, result, report, -, hrun, hrecorded⟩ :=
      s.deleteOwned_effect kind parents id r
    rw [hrun]
    cases hrecorded with
    | propagated hthere hpolicy => cases hisolate.symm.trans hpolicy
    | withheld => exact hr.add rfl rfl
    | deleted => exact hr.add rfl rfl
    | gone hgone => exact hr.add rfl rfl
    | isolated hthere hpolicy => exact hr.add rfl rfl
  deleteAuxiliary kind parents id _ _ :=
    (s.deleteAuxiliary_changes kind parents id).guards (fun _ => rfl) before
  deleteShared kind parents id _ _ :=
    (s.deleteShared_changes kind parents id).guards (fun _ => rfl) before
  update id body _ kind _ _ := (s.update_changes kind [] id body).guards (fun _ => rfl) before

end Setting

end Cleanup

namespace Sweep

open Cleanup

variable {σ : Type}

/-- Where failures are isolated, a category ends well without an event that would end it, or on
the first such event. -/
theorem sweepCategory_ends {c : Sweep σ} {category : Category}
    (hisolate : c.config.policies.of category = .isolate) (t : Trace σ) :
    (∃ report, (c.sweepCategory category t).1 = .ok report ∧
      ∀ event ∈ c.eventsOf category t, event.fatal? = none) ∨
    ∃ e before last, (c.sweepCategory category t).1 = .error e ∧
      c.eventsOf category t = before ++ [last] ∧
      (∀ event ∈ before, event.fatal? = none) ∧ last.fatal? = some e := by
  have hsteps := Setting.isolated_steps (s := c.setting category) hisolate category t.journal
  have hstart : (c.begun category t).Unbroken t.journal :=
    ⟨[], (List.append_nil _).symm, List.forall_mem_nil _⟩
  rcases sweepCategory_guarded hsteps hstart with
    ⟨r, ⟨events, hjournal, hevents⟩, hrun⟩ | ⟨e, r, ⟨before, last, hjournal, hbefore, hlast⟩, hrun⟩
  · have hadded : c.eventsOf category t = events := eventsOf_eq (by rw [hrun]; exact hjournal)
    exact .inl ⟨_, by rw [hrun], hadded ▸ hevents⟩
  · have hadded : c.eventsOf category t = before ++ [last] :=
      eventsOf_eq (by rw [hrun]; exact hjournal)
    exact .inr ⟨e, before, last, by rw [hrun], hadded, hbefore, hlast⟩

/-- Where failures are isolated, the cleanup of a category fails if and only if a list or search
that it makes fails and is not tolerated.  The first that does gives the error, and the backend is
asked for nothing after it.  The events are the calls of the cleanup with the backend's answers. -/
theorem sweepCategory_fails_iff (c : Sweep σ) (category : Category)
    (hisolate : c.config.policies.of category = .isolate) (t : Trace σ) :
    (∀ kept, c.transcribed.sweepCategory category (t.keeping kept) =
        ((c.sweepCategory category t).1, (c.sweepCategory category t).2.keeping
          (kept ++ (c.eventsOf category t).filterMap Event.exchange?))) ∧
      ((∃ e, (c.sweepCategory category t).1 = .error e) ↔
        ∃ event ∈ c.eventsOf category t, event.fatal? ≠ none) ∧
      ∀ e, (c.sweepCategory category t).1 = .error e →
        ∃ before last kind cause, c.eventsOf category t = before ++ [last] ∧
          (∀ event ∈ before, event.fatal? = none) ∧ last.fatal? = some e ∧
          e = .listFailed kind cause ∧
          ((∃ parents, last = .listed kind parents (.error cause)) ∨
            ∃ tags, last = .searched kind tags (.error cause)) := by
  refine ⟨c.sweepCategory_transcribed category t, ?_⟩
  rcases sweepCategory_ends hisolate t with
    ⟨report, hok, hnone⟩ | ⟨e, before, last, herror, hevents, hbefore, hlast⟩
  · rw [hok]
    refine ⟨⟨?_, ?_⟩, ?_⟩
    · rintro ⟨e, he⟩
      cases he
    · rintro ⟨event, hmem, hfatal⟩
      exact absurd (hnone event hmem) hfatal
    · intro e he
      cases he
  · rw [herror]
    refine ⟨⟨fun _ => ⟨last, ?_, ?_⟩, fun _ => ⟨e, rfl⟩⟩, ?_⟩
    · rw [hevents]
      exact List.mem_append_right before (List.mem_singleton_self last)
    · simp [hlast]
    · intro e' he'
      obtain rfl := Except.error.inj he'
      obtain ⟨kind, cause, he, hevent⟩ := Event.fatal?_eq_some hlast
      exact ⟨before, last, kind, cause, hevents, hbefore, hlast, he, hevent⟩

def sharedUnlisted : Store :=
  Store.shared.failList .tier1NatRule (.unauthenticated "expired")

/-- The router of a deployment stays because its rules cannot be listed, and nothing is asked for
after that. -/
theorem unlisted_rules_end_routers :
    let c : Sweep Store := standard (Store.backend false) none .default
    let t : Trace Store := .start sharedUnlisted
    let e : CleanupError := .listFailed .tier1NatRule (.unauthenticated "expired")
    Config.default.policies.of .tier1Routers = .isolate ∧
      (c.sweepCategory .tier1Routers t).1 = .error e ∧
      (c.transcribed.sweepCategory .tier1Routers (t.keeping [])).2.backend.2 =
        (c.eventsOf .tier1Routers t).filterMap Event.exchange? ∧
      ∃ before last kind cause, c.eventsOf .tier1Routers t = before ++ [last] ∧
        (∀ event ∈ before, event.fatal? = none) ∧ last.fatal? = some e ∧
        e = .listFailed kind cause ∧
        ((∃ parents, last = .listed kind parents (.error cause)) ∨
          ∃ tags, last = .searched kind tags (.error cause)) := by
  intro c t e
  have hfails : (c.sweepCategory .tier1Routers t).1 = .error e := by decide +kernel
  obtain ⟨htranscript, -, hends⟩ := sweepCategory_fails_iff c .tier1Routers rfl t
  refine ⟨rfl, hfails, ?_, hends e hfails⟩
  rw [htranscript]
  rfl

end Sweep

end NetSweep
