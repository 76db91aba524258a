import NetSweep.Proofs.Steps

/-!
# Journals replayed

Whatever a run does to a store stands in its journal: the store that it leaves is the one that it
began with after the journal's changes, one by one, and each of them has the answer that the store
gave at its turn.
-/

namespace NetSweep

namespace Cleanup

/-- The change that an event stands for.  Lists and searches are none, and neither is what a dry
run withholds. -/
def Event.change? : Event → Option Change
  | .deletion role target (some _) => some (.delete role target)
  | .update target body (some _) => some (.update target body)
  | _ => none

def Change.Withdraws (c : Change) : Prop := ∀ k body, c = .update k body → body.Withdraws

/-- The event gives the answer that the store has for its change. -/
def Event.Honest (p : Bool) (s : Store) : Event → Prop
  | .deletion _ k (some answer) => (Store.delete p k.kind k.parents k.id s).1 = answer
  | .update k body (some answer) => (Store.patch p k.kind k.parents k.id body s).1 = answer
  | _ => True

/-- Each event gives the answer of the store as the changes of the earlier ones leave it. -/
def Honest (p : Bool) : List Event → Store → Prop
  | [], _ => True
  | event :: events, s =>
    event.Honest p s ∧ Honest p events (Change.applyAll p event.change?.toList s)

/-- The journal has grown by changes that make the new store of the old one. -/
def Replays (p : Bool) (journal : List Event) (s : Store) (journal' : List Event) (s' : Store) :
    Prop :=
  ∃ events, journal' = journal ++ events ∧
    s' = Change.applyAll p (events.filterMap Event.change?) s ∧
    ∀ c ∈ events.filterMap Event.change?, c.Withdraws

/-- Besides, the journal has grown by the answers that the changes met with. -/
def Recounts (p : Bool) (journal : List Event) (s : Store) (journal' : List Event) (s' : Store) :
    Prop :=
  ∃ events, journal' = journal ++ events ∧
    s' = Change.applyAll p (events.filterMap Event.change?) s ∧
    (∀ c ∈ events.filterMap Event.change?, c.Withdraws) ∧ Honest p events s

variable {p : Bool} {journal journal' journal'' : List Event} {s s' s'' : Store}

theorem honest_append {events later : List Event} : Honest p (events ++ later) s ↔
    Honest p events s ∧ Honest p later (Change.applyAll p (events.filterMap Event.change?) s) := by
  induction events generalizing s with
  | nil => simp [Honest]
  | cons event events ih =>
    have hstep : (event :: events).filterMap Event.change? =
        event.change?.toList ++ events.filterMap Event.change? := by
      cases h : event.change? <;> simp [h]
    rw [List.cons_append, Honest, Honest, ih, hstep, Change.applyAll_append, and_assoc]

namespace Replays

theorem refl (journal : List Event) (s : Store) : Replays p journal s journal s :=
  ⟨[], (List.append_nil _).symm, rfl, List.forall_mem_nil _⟩

theorem trans (h : Replays p journal s journal' s') (h' : Replays p journal' s' journal'' s'') :
    Replays p journal s journal'' s'' := by
  obtain ⟨events, rfl, rfl, hmild⟩ := h
  obtain ⟨events', rfl, rfl, hmild'⟩ := h'
  refine ⟨events ++ events', List.append_assoc .., ?_, ?_⟩
  · rw [List.filterMap_append, Change.applyAll_append]
  · rw [List.filterMap_append]
    exact List.forall_mem_append.2 ⟨hmild, hmild'⟩

end Replays

namespace Recounts

theorem replays (h : Recounts p journal s journal' s') : Replays p journal s journal' s' := by
  obtain ⟨events, hjournal, hback, hmild, -⟩ := h
  exact ⟨events, hjournal, hback, hmild⟩

theorem refl (journal : List Event) (s : Store) : Recounts p journal s journal s :=
  ⟨[], (List.append_nil _).symm, rfl, List.forall_mem_nil _, trivial⟩

theorem trans (h : Recounts p journal s journal' s') (h' : Recounts p journal' s' journal'' s'') :
    Recounts p journal s journal'' s'' := by
  obtain ⟨events, rfl, rfl, hmild, hhonest⟩ := h
  obtain ⟨events', rfl, rfl, hmild', hhonest'⟩ := h'
  refine ⟨events ++ events', List.append_assoc .., ?_, ?_, honest_append.2 ⟨hhonest, hhonest'⟩⟩
  · rw [List.filterMap_append, Change.applyAll_append]
  · rw [List.filterMap_append]
    exact List.forall_mem_append.2 ⟨hmild, hmild'⟩

theorem idle {event : Event} (h : event.change? = none) (hhonest : event.Honest p s) :
    Recounts p journal s (journal ++ [event]) s := by
  refine ⟨[event], rfl, ?_, ?_, hhonest, trivial⟩ <;> simp [h]

theorem change {event : Event} {c : Change} (h : event.change? = some c) (hc : c.Withdraws)
    (hhonest : event.Honest p s) :
    Recounts p journal s (journal ++ [event]) (c.apply p s) := by
  refine ⟨[event], rfl, ?_, ?_, hhonest, trivial⟩
  · simp [h]
  · simpa [h] using hc

end Recounts

theorem withdraws_delete (role : Role) (k : Address) : (Change.delete role k).Withdraws := nofun

theorem withdraws_update {k : Address} {body : Json} (h : body.Withdraws) :
    (Change.update k body).Withdraws := by
  intro k' body' heq
  cases heq
  exact h

namespace Setting

variable {s : Setting Store}

theorem recounting_calls (hb : s.backend = Store.backend p) (category : Category)
    (journal₀ : List Event) (base : Store) :
    s.CallsKeep category fun journal b => Recounts p journal₀ base journal b where
  list _ _ _ _ _ h := hb ▸ h.trans (.idle rfl trivial)
  search _ _ _ _ _ h := hb ▸ h.trans (.idle rfl trivial)
  delete role target _ _ _ _ h := hb ▸ h.trans
    (.change (c := .delete role target) rfl (withdraws_delete role target) rfl)
  update target body _ _ hbody _ _ h := hb ▸ h.trans
    (.change (c := .update target body) rfl (withdraws_update hbody) rfl)
  withheldDelete _ _ _ _ _ _ h := h.trans (.idle rfl trivial)
  withheldUpdate _ _ _ _ _ _ h := h.trans (.idle rfl trivial)

end Setting

end Cleanup

namespace Sweep

open Cleanup

variable {c : Sweep Store} {p : Bool}

theorem sweepCategory_recounts (hb : c.backend = Store.backend p) (category : Category)
    (t : Trace Store) : Recounts p t.journal t.backend (c.sweepCategory category t).2.journal
      (c.sweepCategory category t).2.backend := by
  have hcalls := Setting.recounting_calls (s := c.setting category) hb category t.journal t.backend
  exact sweepCategory_preserves hcalls.steps (.refl t.journal t.backend)

theorem sweepCategory_replays (hb : c.backend = Store.backend p) (category : Category)
    (t : Trace Store) : Replays p t.journal t.backend (c.sweepCategory category t).2.journal
      (c.sweepCategory category t).2.backend := (sweepCategory_recounts hb category t).replays

theorem runSteps_replays (hb : c.backend = Store.backend p) (steps : List Plan.Step)
    (t : Trace Store) : Replays p t.journal t.backend (c.runSteps steps t).2.journal
      (c.runSteps steps t).2.backend := by
  refine runSteps_preserves (P := fun t' => Replays p t.journal t.backend t'.journal t'.backend)
    (fun step _ t' h => ?_) (.refl t.journal t.backend)
  exact h.trans (sweepCategory_replays hb step.category t')

theorem sweepAll_replays (hb : c.backend = Store.backend p) (t : Trace Store) :
    Replays p t.journal t.backend (c.sweepAll t).2.journal (c.sweepAll t).2.backend := by
  rw [sweepAll_journal, sweepAll_backend]
  exact runSteps_replays hb c.plan.steps (noted c.starting t)

end Sweep

end NetSweep
