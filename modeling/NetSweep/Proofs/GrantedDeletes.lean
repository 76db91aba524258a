import NetSweep.Proofs.AskedChanges
import NetSweep.Proofs.CompleteRuns

/-!
# Which deletes are granted

A category asks at most once for an object that it answers for.  If that object has gone, it went
at this one delete, so the answer was no refusal.
-/

namespace NetSweep

open Cleanup Store

namespace Cleanup

variable {p : Bool} {s : Store} {role : Role} {k : Address} {answer : Answer Unit}

theorem asked_split {before after : List Event} :
    (before ++ .deletion role k (some answer) :: after).filterMap Event.change? =
      before.filterMap Event.change? ++ .delete role k :: after.filterMap Event.change? :=
  List.filterMap_append

theorem Honest.granted {before after : List Event}
    (h : Honest p (before ++ .deletion role k (some answer) :: after) s) (hk : s.find? k ≠ none)
    (hgone : (Change.applyAll p
      ((before ++ .deletion role k (some answer) :: after).filterMap Event.change?) s).find? k = none)
    (honce : ∀ role', .delete role' k ∉
      before.filterMap Event.change? ++ after.filterMap Event.change?) : answer = .ok () := by
  obtain ⟨-, hanswer, -⟩ := honest_append.1 h
  rw [asked_split, Change.applyAll_append, Change.applyAll_cons] at hgone
  obtain ⟨r, hr⟩ := Option.ne_none_iff_exists'.1 hk
  -- the object is there when its turn comes, and nobody else removes it later
  cases hbefore : (Change.applyAll p (before.filterMap Event.change?) s).find? k with
  | none =>
    obtain ⟨role', hmem⟩ := delete_mem_of_removed hr hbefore
    exact absurd (List.mem_append_left _ hmem) (honce role')
  | some r' =>
    cases answer with
    | ok => rfl
    | error e =>
      rw [Change.apply, delete_error hanswer] at hgone
      obtain ⟨role', hmem⟩ := delete_mem_of_removed hbefore hgone
      exact absurd (List.mem_append_right _ hmem) (honce role')

/-- Where no object is handed over twice, one that is handed over is deleted nowhere else. -/
theorem deleted_once {before after : List Change}
    (hnodup : ((before ++ .delete .owned k :: after).filterMap Change.handed?).Nodup)
    (hrole : ∀ role, .delete role k ∈ before ++ .delete .owned k :: after → role = .owned)
    (role : Role) : .delete role k ∉ before ++ after := by
  intro hmem
  have hsub : (before ++ after).Sublist (before ++ .delete .owned k :: after) :=
    (List.Sublist.refl before).append (List.sublist_cons_self _ _)
  obtain rfl := hrole role (hsub.subset hmem)
  have hhanded : k ∈ (before ++ after).filterMap Change.handed? :=
    List.mem_filterMap.2 ⟨_, hmem, rfl⟩
  have hsplit : (before ++ .delete .owned k :: after).filterMap Change.handed? =
      before.filterMap Change.handed? ++ k :: after.filterMap Change.handed? :=
    List.filterMap_append
  rw [hsplit, List.nodup_middle, ← List.filterMap_append] at hnodup
  exact (List.nodup_cons.1 hnodup).1 hhanded

end Cleanup

namespace Sweep

variable {c : Sweep Store} {p : Bool} {category : Category} {t t' : Trace Store}
  {report : Report.Section} {k : Address} {role : Role}

/-- What a category that ends well has added to the journal. -/
theorem sweepCategory_events (hs : (c.setting category).OnStore p) (hw : t.backend.WellFormed)
    (hrun : c.sweepCategory category t = (.ok report, t')) :
    t'.journal = t.journal ++ c.eventsOf category t ∧
      t'.backend = Change.applyAll p ((c.eventsOf category t).filterMap Event.change?) t.backend ∧
      Honest p (c.eventsOf category t) t.backend ∧
      ((c.eventsOf category t).filterMap Event.change?).Sublist
        ((c.setting category).changes category t.backend) ∧
      ∀ ch ∈ (c.setting category).changes category t.backend, t'.backend.find? ch.target ≠ none →
        ch ∈ (c.eventsOf category t).filterMap Event.change? := by
  obtain ⟨events, hjournal, hback, -, hhonest⟩ := sweepCategory_recounts hs.backend category t
  have hadded : c.eventsOf category t = events := eventsOf_eq hjournal
  rw [hrun] at hjournal hback
  rw [hadded]
  refine ⟨hjournal, hback, hhonest, ?_⟩
  obtain ⟨-, -, events', hjournal', hasked⟩ := sweepCategory_of_ok hs hw hrun
  obtain rfl : events = events' := List.append_cancel_left (hjournal.symm.trans hjournal')
  exact hasked

theorem changesSince_eq (hs : (c.setting category).OnStore p) (hw : t.backend.WellFormed)
    (hrun : c.sweepCategory category t = (.ok report, t')) :
    changesSince t t' = (c.eventsOf category t).filterMap Event.change? := by
  rw [changesSince, (sweepCategory_events hs hw hrun).1, List.drop_left]

theorem deletes_of_event (hs : (c.setting category).OnStore p) (hw : t.backend.WellFormed)
    (hrun : c.sweepCategory category t = (.ok report, t')) {answer : Answer Unit}
    (hmem : .deletion role k (some answer) ∈ c.eventsOf category t) : category.Deletes role k.kind := by
  obtain ⟨-, -, -, hasked, -⟩ := sweepCategory_events hs hw hrun
  have hchange : .delete role k ∈ (c.eventsOf category t).filterMap Event.change? :=
    List.mem_filterMap.2 ⟨_, hmem, rfl⟩
  exact Setting.deletes_of_mem_changes (hasked.subset hchange)

/-- An object that the category answers for and that has gone was not refused. -/
theorem granted_of_gone (hs : (c.setting category).OnStore p) (hw : t.backend.WellFormed)
    (hrun : c.sweepCategory category t = (.ok report, t')) (hkind : k.kind ∈ category.reported)
    (hgone : t'.backend.find? k = none) {answer : Answer Unit}
    (hmem : .deletion role k (some answer) ∈ c.eventsOf category t) : answer = .ok () := by
  obtain ⟨-, hback, hhonest, hasked, -⟩ := sweepCategory_events hs hw hrun
  obtain ⟨before, after, hsplit⟩ := List.append_of_mem hmem
  rw [hsplit] at hback hhonest hasked
  rw [hback] at hgone
  rw [asked_split] at hasked
  have hrole : ∀ role', .delete role' k ∈ before.filterMap Event.change? ++
      .delete role k :: after.filterMap Event.change? → role' = .owned := fun role' hmem' =>
    (Setting.deletes_of_mem_changes (hasked.subset hmem')).owned_iff.2 hkind
  have hself : .delete role k ∈ before.filterMap Event.change? ++
      .delete role k :: after.filterMap Event.change? :=
    List.mem_append_right _ List.mem_cons_self
  obtain rfl := hrole role hself
  have hk := Setting.stored_of_mem_candidates hs hw (Setting.mem_candidates.2 (hasked.subset hself))
  refine hhonest.granted hk hgone (deleted_once ?_ hrole)
  have hnodup := hs.nodup_candidates hw category
  rw [← Setting.handed_changes] at hnodup
  exact hnodup.sublist (hasked.filterMap _)

/-- The attempts among some events are the objects that the changes among them hand over. -/
theorem targets_of_attempts (events : List Event) :
    (events.filterMap Event.attempt?).map Attempt.target =
      (events.filterMap Event.change?).filterMap Change.handed? := by
  rw [List.map_filterMap, List.filterMap_filterMap]
  refine List.filterMap_congr fun event _ => ?_
  rcases event with _ | _ | ⟨role, target, _ | answer⟩ | ⟨target, body, _ | answer⟩
  case deletion.some => cases role <;> rfl
  case deletion.none => cases role <;> rfl
  all_goals rfl

/-- Where all candidates of a category have gone, each was attempted once and deleted. -/
theorem report_of_all_gone (hs : (c.setting category).OnStore p) (hw : t.backend.WellFormed)
    (hrun : c.sweepCategory category t = (.ok report, t'))
    (hgone : ∀ k ∈ (c.setting category).candidates category t.backend, t'.backend.find? k = none) :
    report.candidates = ((c.setting category).candidates category t.backend).length ∧
      report.deleted = ((c.setting category).candidates category t.backend).length := by
  obtain ⟨-, hback, -, hasked, -⟩ := sweepCategory_events hs hw hrun
  have haccounts := sweepCategory_accounts hs.wet (congrArg Prod.fst hrun)
  have hhanded := Setting.handed_changes (c.setting category) t.backend category
  have hnodup := hs.nodup_candidates hw category
  rw [← hhanded] at hnodup hgone ⊢
  have hsub := hasked.filterMap Change.handed?
  have hreported : ∀ k ∈ ((c.setting category).changes category t.backend).filterMap
      Change.handed?, k.kind ∈ category.reported := by
    intro k hk
    exact (Setting.deletes_of_mem_changes (Setting.mem_candidates.1 (hhanded ▸ hk))).owned_iff.1 rfl
  have hperm : (((c.eventsOf category t).filterMap Event.attempt?).map Attempt.target).Perm
      (((c.setting category).changes category t.backend).filterMap Change.handed?) := by
    rw [targets_of_attempts]
    refine (List.perm_ext_iff_of_nodup (hnodup.sublist hsub) hnodup).2 fun k =>
      ⟨fun hk => hsub.subset hk, fun hk => ?_⟩
    have hstored := Setting.stored_of_mem_candidates hs hw (hhanded ▸ hk)
    obtain ⟨r, hr⟩ := Option.ne_none_iff_exists'.1 hstored
    have hleft := hgone k hk
    rw [hback] at hleft
    obtain ⟨role, hmem⟩ := delete_mem_of_removed hr hleft
    obtain rfl := (Setting.deletes_of_mem_changes (hasked.subset hmem)).owned_iff.2 (hreported k hk)
    exact List.mem_filterMap.2 ⟨_, hmem, rfl⟩
  have hlength := hperm.length_eq
  rw [List.length_map] at hlength
  refine ⟨haccounts.candidates.trans hlength, ?_⟩
  rw [haccounts.deleted, ← hlength, List.countP_eq_length]
  intro attempt hattempt
  have htarget := hperm.subset (List.mem_map_of_mem hattempt)
  obtain ⟨event, hevent, hattempt⟩ := List.mem_filterMap.1 hattempt
  obtain rfl := Event.attempt?_eq_some.1 hattempt
  have hanswer := granted_of_gone hs hw hrun (hreported _ htarget) (hgone _ htarget) hevent
  rw [Attempt.succeeded, hanswer]

end Sweep

end NetSweep
