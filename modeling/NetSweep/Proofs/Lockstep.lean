import NetSweep.Proofs.Changes

/-!
# Two stores that are changed in lockstep

A store that is ahead of another has lost what the other has lost, and more.  It stays ahead when
it makes every change that the other makes of what it still has, in the same order, and any other
changes of its own: what nothing keeps in the one, nothing keeps in the one ahead of it.
-/

namespace NetSweep.Store

open Cleanup Change

variable {altered : List Kind} {domain : String} {a b : Store} {p : Bool} {c : Change}
  {cs cs' : List Change}

/-- The second store may refuse changes only where the first may. -/
structure Laxer (a b : Store) : Prop where
  deletes : ∀ k, Assoc.find? k a.deleteFailures = none → Assoc.find? k b.deleteFailures = none
  patches : ∀ k, Assoc.find? k a.patchFailures = none → Assoc.find? k b.patchFailures = none

theorem Laxer.applyAll (h : Laxer a b) (p : Bool) (cs cs' : List Change) :
    Laxer (Change.applyAll p cs a) (Change.applyAll p cs' b) := by
  have ha := failures_applyAll p cs a
  have hb := failures_applyAll p cs' b
  simp only [failures, Prod.mk.injEq] at ha hb
  constructor
  · rw [ha.1, hb.1]
    exact h.deletes
  · rw [ha.2.1, hb.2.1]
    exact h.patches

theorem Thinned.objects_keys (h : Thinned altered a b) :
    b.objects = (Assoc.keys a.objects).filterMap fun k => (b.find? k).map (k, ·) := by
  rw [Assoc.keys, List.filterMap_map]
  exact h.objects

/-- What is left of a store is left, in the same order, of any part of it that has lost no more. -/
theorem Thinned.objects_of_keys (h : Thinned altered a b) {part : Store}
    (hkeys : Assoc.keys part.objects =
      (Assoc.keys a.objects).filter fun k => (part.find? k).isSome)
    (hgone : ∀ k, part.find? k = none → b.find? k = none) :
    b.objects = part.objects.filterMap fun o => (b.find? o.1).map (o.1, ·) :=
  calc b.objects
    _ = (Assoc.keys a.objects).filterMap fun k => (b.find? k).map (k, ·) := h.objects_keys
    _ = (Assoc.keys part.objects).filterMap fun k => (b.find? k).map (k, ·) := by
      rw [hkeys, List.filterMap_filter]
      refine List.filterMap_congr fun k _ => ?_
      cases hk : part.find? k with
      | none => simp [hgone k hk]
      | some r => simp
    _ = part.objects.filterMap fun o => (b.find? o.1).map (o.1, ·) := by
      rw [Assoc.keys, List.filterMap_map]
      rfl

/-- What is left of a store is left of it, too, after a change of an object that is gone, or that
is trimmed at least as much. -/
theorem Remains.behind (h : Remains altered domain a b) (ha : a.WellFormed)
    (hc : c.Mild altered domain)
    (htarget : ∀ r, b.find? c.target = some r → ∃ r₀, (c.apply p a).find? c.target = some r₀ ∧
      r.TrimOf r₀ ∧ c.target.kind ∈ altered) :
    Remains altered domain (c.apply p a) b where
  thinned := by
    have hkeys := ((Thinned.refl ha).apply (p := p) ha hc).keys
    have hgone : ∀ k, (c.apply p a).find? k = none → b.find? k = none := by
      intro k hk
      by_cases hkey : k = c.target
      · subst hkey
        by_contra hne
        obtain ⟨r, hr⟩ := Option.ne_none_iff_exists'.1 hne
        obtain ⟨r₀, hr₀, -⟩ := htarget r hr
        rw [hk] at hr₀
        cases hr₀
      · exact h.thinned.find?_none ((find?_apply_of_ne hkey).symm.trans hk)
    refine ⟨h.thinned.objects_of_keys hkeys hgone, ?_⟩
    intro k r hr
    by_cases hkey : k = c.target
    · subst hkey
      obtain ⟨r₀, hr₀, htrim, hkind⟩ := htarget r hr
      exact ⟨r₀, hr₀, htrim, fun hk => absurd hkind hk⟩
    · obtain ⟨r₀, hr₀, hrest⟩ := h.thinned.found hr
      exact ⟨r₀, (find?_apply_of_ne hkey).trans hr₀, hrest⟩
  listFailures := h.listFailures.trans (congrArg (·.2.2) (failures_apply p c a)).symm
  hollow hout hgone hcontains :=
    h.hollow (fun hnone => hout (find?_apply_none hnone)) hgone hcontains
  elsewhere {k} hk hp := by
    have hne : k ≠ c.target := fun e => hp (e ▸ hc.place (e ▸ hk))
    exact (h.elsewhere hk hp).trans (find?_apply_of_ne hne).symm

/-- Of what is gone from the second store, the first may be changed alone. -/
theorem Remains.behind_gone (h : Remains altered domain a b) (ha : a.WellFormed)
    (hc : c.Mild altered domain) (hgone : b.find? c.target = none) :
    Remains altered domain (c.apply p a) b :=
  h.behind ha hc fun r hr => by
    rw [hgone] at hr
    cases hr

/-- A change that both make. -/
theorem Remains.both (h : Remains altered domain a b) (ha : a.WellFormed) (hlax : Laxer a b)
    (hc : c.Mild altered domain) : Remains altered domain (c.apply p a) (c.apply p b) := by
  have hb := h.thinned.wellFormed ha
  have hahead : Remains altered domain a (c.apply p b) := h.apply ha hc
  cases hr' : b.find? c.target with
  | none => exact hahead.behind_gone ha hc (find?_apply_none hr')
  | some r' =>
    obtain ⟨r, hr, htrim, -⟩ := h.thinned.found hr'
    cases c with
    | delete role k =>
      rcases delete_cases p k a with hrefused | ⟨r₁, haccess, hr₁, ho, -⟩
      · rwa [show (Change.delete role k).apply p a = a from hrefused]
      · -- what let the delete pass in the first store does so in the second
        have ho' := h.thinned.obstacle?_eq_none ha (hlax.deletes _) hr₁ hr' ho
        refine hahead.behind_gone ha hc ?_
        simp [Change.apply, Change.target, delete_of_obstacle?_none haccess hr' ho', find?]
    | update k body =>
      rcases patch_cases_of_mild (p := p) ha hc with
        hrefused | ⟨r₁, names, haccess, hr₁, rfl, hn, hf, hdone⟩
      · rwa [hrefused]
      · obtain rfl : r = r₁ := Option.some.inj (hr.symm.trans hr₁)
        have hpatch := Resource.patchResource?_withdrawal (hb.fits hr').proper hn
        have hdone' := patch_of_found haccess hr' hpatch (hlax.patches _ hf)
        refine hahead.behind ha hc fun r₂ hr₂ => ⟨r.without names, ?_, ?_, (hc.withdrawal rfl).1⟩
        · simp [hdone, Change.target, find?]
        · obtain rfl : r'.without names = r₂ := by
            simpa [Change.apply, Change.target, hdone', find?] using hr₂
          exact htrim.without names

/-- The second store stays ahead when it makes all changes of the first but those of objects that
it has lost, in their order, among changes of its own. -/
theorem Remains.lockstep (h : Remains altered domain a b) (ha : a.WellFormed) (hlax : Laxer a b)
    {present : Address → Bool} (hpresent : ∀ k, present k = false → b.find? k = none)
    (hcs : ∀ c ∈ cs, c.Mild altered domain) (hcs' : ∀ c ∈ cs', c.Mild altered domain)
    (hsub : (cs.filter fun c => present c.target).Sublist cs') :
    Remains altered domain (Change.applyAll p cs a) (Change.applyAll p cs' b) := by
  induction cs generalizing a b cs' with
  | nil => exact h.applyAll ha hcs'
  | cons c cs ih =>
    have hc := hcs c List.mem_cons_self
    have hrest : ∀ c ∈ cs, c.Mild altered domain := fun c hc => hcs c (List.mem_cons_of_mem _ hc)
    have ha' : (c.apply p a).WellFormed := ((Thinned.refl ha).apply ha hc).wellFormed ha
    cases hhas : present c.target with
    | false =>
      rw [List.filter_cons_of_neg (by simp [hhas])] at hsub
      exact ih (h.behind_gone ha hc (hpresent _ hhas)) ha' (hlax.applyAll p [c] []) hpresent hrest
        hcs' hsub
    | true =>
      rw [List.filter_cons_of_pos (by simp [hhas])] at hsub
      -- the second store makes `before` alone, then `c` along with the first, then the rest
      obtain ⟨upto, later, rfl, hmem, htail⟩ := List.cons_sublist_iff.1 hsub
      obtain ⟨before, between, rfl⟩ := List.append_of_mem hmem
      have hupto : Remains altered domain (c.apply p a)
          (Change.applyAll p (before ++ c :: between) b) := by
        have hbefore : ∀ c ∈ before, c.Mild altered domain := fun c hc => hcs' c (by simp [hc])
        have hbetween : ∀ c ∈ between, c.Mild altered domain := fun c hc => hcs' c (by simp [hc])
        rw [applyAll_append]
        exact ((h.applyAll ha hbefore).both ha (hlax.applyAll p [] before) hc).applyAll ha' hbetween
      have hlater : ∀ c ∈ later, c.Mild altered domain := fun c hc => hcs' c (by simp [hc])
      rw [applyAll_append]
      exact ih hupto ha' (hlax.applyAll p [c] (before ++ c :: between))
        (fun k hk => find?_applyAll_none (hpresent k hk)) hrest hlater htail

end NetSweep.Store
