import NetSweep.Proofs.FilledStores

/-!
# Thinned stores

Cleanup removes objects and withdraws fields of some; it adds nothing and moves nothing.  What it
leaves of a store is the store thinned: the surviving objects in their order, each as it was but
for withdrawn fields, and those only in objects of a few kinds.  A thinner store refuses no delete
that a fuller one lets pass.
-/

namespace NetSweep.Store

variable {altered : List Kind} {s t u : Store} {p : Bool} {key : Address}

/-- The second store is what is left of the first; only objects of the given kinds are trimmed. -/
structure Thinned (altered : List Kind) (s t : Store) : Prop where
  objects : t.objects = s.objects.filterMap (fun o => (t.find? o.1).map (o.1, ·))
  found : ∀ {key r}, t.find? key = some r →
    ∃ r₀, s.find? key = some r₀ ∧ r.TrimOf r₀ ∧ (key.kind ∉ altered → r = r₀)

namespace Thinned

theorem of_objects (hs : s.WellFormed) (h : t.objects = s.objects) : Thinned altered s t where
  objects := by
    rw [h]
    refine (List.filterMap_some.symm.trans (List.filterMap_congr fun o ho => ?_))
    have ho' : t.find? o.1 = some o.2 := by
      rw [find?, h]
      exact hs.mem_iff.1 ho
    simp [ho']
  found {key r} hr := by
    rw [find?, h] at hr
    exact ⟨r, hr, .refl r, fun _ => rfl⟩

theorem refl (hs : s.WellFormed) : Thinned altered s s := of_objects hs rfl

theorem find?_none (h : Thinned altered s t) (hk : s.find? key = none) : t.find? key = none := by
  cases hr : t.find? key with
  | none => rfl
  | some r =>
    obtain ⟨r₀, hr₀, -⟩ := h.found hr
    rw [hk] at hr₀
    cases hr₀

theorem mono {more : List Kind} (h : Thinned altered s t) (hm : altered ⊆ more) :
    Thinned more s t where
  objects := h.objects
  found hr := by
    obtain ⟨r₀, hr₀, htrim, hsame⟩ := h.found hr
    exact ⟨r₀, hr₀, htrim, fun hk => hsame fun hk' => hk (hm hk')⟩

theorem trans (h : Thinned altered s t) (h' : Thinned altered t u) : Thinned altered s u where
  objects := by
    rw [h'.objects, h.objects, List.filterMap_filterMap]
    refine List.filterMap_congr fun o _ => ?_
    cases hr : t.find? o.1 with
    | none => simp [h'.find?_none hr]
    | some r => rfl
  found hr := by
    obtain ⟨r₁, hr₁, htrim₁, hsame₁⟩ := h'.found hr
    obtain ⟨r₀, hr₀, htrim₀, hsame₀⟩ := h.found hr₁
    exact ⟨r₀, hr₀, htrim₁.trans htrim₀, fun hk => (hsame₁ hk).trans (hsame₀ hk)⟩

theorem keys (h : Thinned altered s t) :
    Assoc.keys t.objects = (Assoc.keys s.objects).filter (fun k => (t.find? k).isSome) := by
  have general : ∀ l : List (Address × Resource),
      (l.filterMap (fun o => (t.find? o.1).map (o.1, ·))).map Prod.fst =
        (l.map Prod.fst).filter (fun k => (t.find? k).isSome) := by
    intro l
    induction l with
    | nil => rfl
    | cons o l ih => cases ho : t.find? o.1 <;> simp [ho, ih]
  rw [Assoc.keys, h.objects]
  exact general s.objects

theorem wellFormed (h : Thinned altered s t) (hs : s.WellFormed) : t.WellFormed where
  sorted := by
    refine Assoc.sorted_iff_keys.2 ?_
    rw [h.keys]
    exact (Assoc.sorted_iff_keys.1 hs.sorted).sublist List.filter_sublist
  fits hr := by
    obtain ⟨r₀, hr₀, htrim, -⟩ := h.found hr
    have hfits := hs.fits hr₀
    exact ⟨htrim.id.trans hfits.id, hfits.depth, fun hp => htrim.path ▸ hfits.path hp,
      htrim.proper hfits.proper⟩

/-- Objects of kinds that are not altered: the picked ones are those that are still there of the
ones picked before. -/
theorem filter_objects (h : Thinned altered s t) (hs : s.WellFormed)
    {q : Address × Resource → Bool} (hq : ∀ o, q o = true → o.1.kind ∉ altered) :
    t.objects.filter q = (s.objects.filter q).filter (fun o => (t.find? o.1).isSome) := by
  rw [h.objects, List.filter_filterMap, List.filter_filter, ← List.filterMap_eq_filter]
  refine List.filterMap_congr fun o ho => ?_
  cases hr : t.find? o.1 with
  | none => simp [Option.guard, hr]
  | some r =>
    obtain ⟨r₀, hr₀, -, hsame⟩ := h.found hr
    have ho₀ : o.2 = r₀ := Option.some.inj ((hs.mem_iff.1 ho).symm.trans hr₀)
    by_cases hk : o.1.kind ∈ altered
    · have no : ∀ r', q (o.1, r') = false := fun r' =>
        Bool.eq_false_iff.2 fun hq' => hq _ hq' hk
      simp [Option.guard, hr, no]
    · obtain rfl := (hsame hk).trans ho₀.symm
      simp [Option.guard, hr, Option.filter]

/-! ## What deletes and withdrawals leave -/

theorem erase (h : Thinned altered s t) (key : Address) {u : Store}
    (hu : u.objects = Assoc.erase key t.objects) : Thinned altered s u where
  objects := by
    have hfind : ∀ k, u.find? k = if k = key then none else t.find? k := by
      intro k
      rw [find?, hu]
      by_cases hk : k = key
      · simp [hk]
      · simp [hk, Assoc.find?_erase_ne hk, find?]
    rw [hu, Assoc.erase_eq_filter, h.objects, List.filter_filterMap]
    refine List.filterMap_congr fun o _ => ?_
    rw [hfind]
    by_cases hk : o.1 = key
    · cases t.find? o.1 <;> simp [hk, Option.filter]
    · cases t.find? o.1 <;> simp [hk, Option.filter]
  found {k r} hr := by
    by_cases hk : k = key
    · simp [find?, hu, hk] at hr
    · rw [find?, hu, Assoc.find?_erase_ne hk] at hr
      exact h.found hr

theorem trim (h : Thinned altered s t) (hs : s.WellFormed) {key : Address} {r r' : Resource}
    (hr : t.find? key = some r) (htrim : r'.TrimOf r) (hk : key.kind ∈ altered) {u : Store}
    (hu : u.objects = Assoc.insert key r' t.objects) : Thinned altered s u where
  objects := by
    have hfind : ∀ k, u.find? k = if k = key then some r' else t.find? k := by
      intro k
      rw [find?, hu]
      by_cases hk : k = key
      · simp [hk]
      · simp [hk, Assoc.find?_insert_ne hk, find?]
    have hmem : key ∈ Assoc.keys t.objects := Assoc.mem_keys_iff.2 ⟨r, hr⟩
    rw [hu, (h.wellFormed hs).sorted.insert_eq_map hmem, h.objects, List.map_filterMap]
    refine List.filterMap_congr fun o _ => ?_
    rw [hfind]
    by_cases hk : o.1 = key
    · simp [hk, hr]
    · cases t.find? o.1 <;> simp [hk]
  found {k r''} hr'' := by
    by_cases hkey : k = key
    · subst hkey
      obtain rfl : r' = r'' := by simpa [find?, hu] using hr''
      obtain ⟨r₀, hr₀, htrim', -⟩ := h.found hr
      exact ⟨r₀, hr₀, htrim.trans htrim', fun hk' => absurd hk hk'⟩
    · rw [find?, hu, Assoc.find?_insert_ne hkey] at hr''
      exact h.found hr''

end Thinned

/-! ## Obstacles -/

theorem childOf?_eq_none {key : Address} :
    s.childOf? key = none ↔ ∀ o ∈ s.objects, key.contains o.1 = false := by
  simp [childOf?]

theorem referrerOf?_eq_none {key : Address} {target : String} :
    s.referrerOf? key target = none ↔
      ∀ o ∈ s.objects, o.1 ≠ key → o.2.mentions target = false := by
  simp [referrerOf?]

theorem obstacle?_eq_none {key : Address} {r : Resource} :
    s.obstacle? key r = none ↔ Assoc.find? (key.kind, key.id) s.deleteFailures = none ∧
      s.childOf? key = none ∧ s.referrerOf? key (handle key.kind key.id r) = none := by
  unfold obstacle?
  split
  · simp [*]
  · split
    · simp [*]
    · split <;> simp [*]

/-- What nothing keeps in a store, nothing keeps in a thinner one. -/
theorem Thinned.obstacle?_eq_none (h : Thinned altered s t) (hs : s.WellFormed)
    (hfail : Assoc.find? (key.kind, key.id) s.deleteFailures = none →
      Assoc.find? (key.kind, key.id) t.deleteFailures = none)
    {r r' : Resource} (hr : s.find? key = some r) (hr' : t.find? key = some r')
    (ho : s.obstacle? key r = none) : t.obstacle? key r' = none := by
  obtain ⟨hf, hc, href⟩ := Store.obstacle?_eq_none.1 ho
  obtain ⟨r₀, hr₀, htrim, -⟩ := h.found hr'
  obtain rfl : r = r₀ := Option.some.inj (hr.symm.trans hr₀)
  have hhandle : handle key.kind key.id r' = handle key.kind key.id r := by
    simp only [handle, htrim.path]
  have hfound : ∀ o ∈ t.objects, ∃ r₀, (o.1, r₀) ∈ s.objects ∧ o.2.TrimOf r₀ := by
    intro o ho
    obtain ⟨r₀, hr₀, htrim, -⟩ := h.found (((h.wellFormed hs).mem_iff (r := o.2)).1 ho)
    exact ⟨r₀, hs.mem_iff.2 hr₀, htrim⟩
  refine Store.obstacle?_eq_none.2 ⟨hfail hf, childOf?_eq_none.2 fun o ho => ?_,
    referrerOf?_eq_none.2 fun o ho hne => ?_⟩
  · obtain ⟨r₀, hr₀, -⟩ := hfound o ho
    exact childOf?_eq_none.1 hc (o.1, r₀) hr₀
  · obtain ⟨r₀, hr₀, htrim⟩ := hfound o ho
    rw [hhandle]
    refine Bool.eq_false_iff.2 fun hm => ?_
    have := referrerOf?_eq_none.1 href (o.1, r₀) hr₀ hne
    rw [htrim.mentions hm] at this
    cases this

end NetSweep.Store
