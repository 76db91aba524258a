import NetSweep.Proofs.Steps

/-!
# What a category asks for

Whatever the backend answers, a category only asks for kinds that it is let reach, deletes objects
of the kinds that the standard plan gives it, and updates objects of the kinds that it alters.
-/

namespace NetSweep

namespace Cleanup

def Event.kind : Event → Kind
  | .listed kind _ _ | .searched kind _ _ => kind
  | .deletion _ target _ | .update target _ _ => target.kind

/-- Whether the event is of a kind that the category deletes or alters, if it is a change. -/
def Event.Befits (category : Category) : Event → Prop
  | .listed .. | .searched .. => True
  | .deletion _ target _ => target.kind ∈ category.kinds
  | .update target _ _ => target.kind ∈ category.altered

variable {σ : Type}

namespace Setting

def Permits (s : Setting σ) (category : Category) (event : Event) : Prop :=
  s.Reaches event.kind ∧ event.Befits category

theorem permitted_calls (s : Setting σ) (category : Category) (before : List Event) :
    s.CallsKeep category fun journal _ => Extends (s.Permits category) before journal where
  list _ _ _ _ hreach h := h.add ⟨hreach, trivial⟩
  search _ _ _ _ hreach h := h.add ⟨hreach, trivial⟩
  delete _ _ _ _ hkind hreach h := h.add ⟨hreach, hkind⟩
  update _ _ _ _ _ hkind hreach h := h.add ⟨hreach, hkind⟩
  withheldDelete _ _ _ _ hkind hreach h := h.add ⟨hreach, hkind⟩
  withheldUpdate _ _ _ _ hkind hreach h := h.add ⟨hreach, hkind⟩

end Setting

end Cleanup

namespace Sweep

open Cleanup

variable {σ : Type} (c : Sweep σ)

theorem sweepCategory_permitted (category : Category) (t : Trace σ) :
    Extends ((c.setting category).Permits category) t.journal
      (c.sweepCategory category t).2.journal := by
  have hcalls := (c.setting category).permitted_calls category t.journal
  exact sweepCategory_preserves (P := fun journal _ => Extends _ t.journal journal) hcalls.steps
    (.refl _ t.journal)

theorem sweepCategory_journal (category : Category) (t : Trace σ) :
    (c.sweepCategory category t).2.journal = t.journal ++ c.eventsOf category t := by
  obtain ⟨events, hjournal, -⟩ := c.sweepCategory_permitted category t
  rw [eventsOf_eq hjournal, hjournal]

theorem permits_of_mem_eventsOf {category : Category} {t : Trace σ} {event : Event}
    (h : event ∈ c.eventsOf category t) : (c.setting category).Permits category event := by
  obtain ⟨events, hjournal, hevents⟩ := c.sweepCategory_permitted category t
  rw [eventsOf_eq hjournal] at h
  exact hevents event h

end Sweep

end NetSweep
