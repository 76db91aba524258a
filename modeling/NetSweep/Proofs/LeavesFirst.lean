import NetSweep.Proofs.CategoryChanges
import NetSweep.Proofs.NothingDangling

/-!
# Leaves first

One object is in the way of another if it lies inside it or mentions it.  Changes go leaves first
if each object is deleted after all that is in its way.  Then no delete is refused; and where an
object has gone, all that was in its way has gone before.
-/

namespace NetSweep

open Cleanup Change

theorem Address.not_contains_self (k : Address) : k.contains k = false := by
  simp [Address.contains]

theorem Kind.mem_dependencies_of_contains {outer inner : Address}
    (h : outer.contains inner = true) : outer.kind ∈ inner.kind.dependencies := by
  simp only [Address.contains, decide_eq_true_eq] at h
  simp [Kind.dependencies, h.1]

namespace Store

/-- The first object mentions the second. -/
def Refers (s : Store) (a k : Address) : Prop :=
  ∃ ra rk, s.find? a = some ra ∧ s.find? k = some rk ∧
    ra.mentions (handle k.kind k.id rk) = true

/-- The first object is in the way of deleting the second. -/
def Obstructs (s : Store) (a k : Address) : Prop :=
  a ≠ k ∧ s.find? a ≠ none ∧ (k.contains a = true ∨ s.Refers a k)

variable {s t : Store} {a k : Address} {r : Resource} {altered : List Kind} {p : Bool}
  {domain : String} {cs cs' : List Change}

theorem Refers.stored (h : s.Refers a k) : s.find? a ≠ none := by
  obtain ⟨ra, -, hra, -⟩ := h
  simp [hra]

theorem Refers.target_stored (h : s.Refers a k) : s.find? k ≠ none := by
  obtain ⟨-, rk, -, hrk, -⟩ := h
  simp [hrk]

theorem unused_iff_unobstructed (hw : s.WellFormed) (hr : s.find? k = some r) :
    s.childOf? k = none ∧ s.referrerOf? k (handle k.kind k.id r) = none ↔
      ∀ a, ¬ s.Obstructs a k := by
  rw [childOf?_eq_none, referrerOf?_eq_none]
  constructor
  · rintro ⟨hempty, hunmentioned⟩ a ⟨hne, ha, hinside | ⟨ra, rk, hra, hrk, hmentions⟩⟩
    · obtain ⟨ra, hra⟩ := Option.ne_none_iff_exists'.1 ha
      have hout := hempty (a, ra) (hw.mem_iff.2 hra)
      rw [hinside] at hout
      cases hout
    · obtain rfl : rk = r := Option.some.inj (hrk.symm.trans hr)
      have hnot := hunmentioned (a, ra) (hw.mem_iff.2 hra) hne
      rw [hmentions] at hnot
      cases hnot
  · intro hfree
    refine ⟨fun o ho => Bool.eq_false_iff.2 fun hinside => ?_,
      fun o ho hne => Bool.eq_false_iff.2 fun hmentions => ?_⟩
    · have hne : o.1 ≠ k := by
        rintro rfl
        rw [Address.not_contains_self] at hinside
        cases hinside
      exact hfree o.1 ⟨hne, by simp [hw.mem_iff.1 ho], .inl hinside⟩
    · have hstored := hw.mem_iff.1 ho
      exact hfree o.1 ⟨hne, by simp [hstored], .inr ⟨o.2, r, hstored, hr, hmentions⟩⟩

theorem obstacle?_eq_none_of_unobstructed (hw : s.WellFormed) (hfail : s.deleteFailures = [])
    (hr : s.find? k = some r) (h : ∀ a, ¬ s.Obstructs a k) : s.obstacle? k r = none := by
  refine obstacle?_eq_none.2 ⟨by rw [hfail]; rfl, ?_⟩
  exact (unused_iff_unobstructed hw hr).2 h

/-- What is in the way in a thinner store was in the way before. -/
theorem Thinned.obstructs (h : Thinned altered s t) (hobs : t.Obstructs a k) : s.Obstructs a k := by
  obtain ⟨hne, ha, hinside | ⟨ra, rk, hra, hrk, hmentions⟩⟩ := hobs
  · exact ⟨hne, fun hnone => ha (h.find?_none hnone), .inl hinside⟩
  · obtain ⟨ra₀, hra₀, htrim, -⟩ := h.found hra
    obtain ⟨rk₀, hrk₀, htrimk, -⟩ := h.found hrk
    have hhandle : handle k.kind k.id rk = handle k.kind k.id rk₀ := by
      simp only [handle, htrimk.path]
    exact ⟨hne, by simp [hra₀], .inr ⟨ra₀, rk₀, hra₀, hrk₀, htrim.mentions (hhandle ▸ hmentions)⟩⟩

/-- What was in the way still is, if it is still there and untrimmed. -/
theorem Thinned.still_obstructs (h : Thinned altered s t) (hobs : s.Obstructs a k)
    (haltered : a.kind ∉ altered) (ha : t.find? a ≠ none) (hk : t.find? k ≠ none) :
    t.Obstructs a k := by
  obtain ⟨hne, -, hinside | ⟨ra₀, rk₀, hra₀, hrk₀, hmentions⟩⟩ := hobs
  · exact ⟨hne, ha, .inl hinside⟩
  · obtain ⟨ra, hra⟩ := Option.ne_none_iff_exists'.1 ha
    obtain ⟨rk, hrk⟩ := Option.ne_none_iff_exists'.1 hk
    obtain ⟨ra₁, hra₁, -, hsame⟩ := h.found hra
    obtain ⟨rk₁, hrk₁, htrimk, -⟩ := h.found hrk
    obtain rfl : ra₁ = ra₀ := Option.some.inj (hra₁.symm.trans hra₀)
    obtain rfl : rk₁ = rk₀ := Option.some.inj (hrk₁.symm.trans hrk₀)
    obtain rfl := hsame haltered
    have hhandle : handle k.kind k.id rk = handle k.kind k.id rk₁ := by
      simp only [handle, htrimk.path]
    exact ⟨hne, ha, .inr ⟨ra, rk, hra, hrk, hhandle ▸ hmentions⟩⟩

end Store

/-! ## No delete is refused -/

namespace Cleanup.Change

/-- The object that a change has to remove.  A shared object may well stay, if somebody uses it. -/
def firm? : Change → Option Address
  | delete .owned k | delete .auxiliary k => some k
  | delete .shared _ | update .. => none

theorem eq_delete_of_firm? {c : Change} {k : Address} (h : c.firm? = some k) :
    ∃ role, c = .delete role k := by
  rcases c with ⟨role, target⟩ | _
  · cases role with
    | owned | auxiliary =>
      obtain rfl := Option.some.inj h
      exact ⟨_, rfl⟩
    | shared => cases h
  · cases h

theorem Mild.withdraws {altered : List Kind} {domain : String} {c : Change}
    (h : c.Mild altered domain) : c.Withdraws := fun _ _ hc => (h.withdrawal hc).2

end Cleanup.Change

namespace Store

/-- Whatever is in the way of an object in the store is gone when the object is to be deleted. -/
def LeavesFirst (s : Store) : (Address → Prop) → List Change → Prop
  | _, [] => True
  | gone, c :: cs => (∀ k, c.firm? = some k → ∀ a, s.Obstructs a k → gone a) ∧
      LeavesFirst s (fun a => gone a ∨ c.firm? = some a) cs

variable {s t : Store} {a k : Address} {r : Resource} {altered : List Kind} {p : Bool}
  {domain : String} {cs cs' : List Change} {gone gone' : Address → Prop}

def Fells (cs : List Change) (a : Address) : Prop := ∃ c ∈ cs, c.firm? = some a

theorem Fells.mono (h : Fells cs a) (hsub : cs ⊆ cs') : Fells cs' a := by
  obtain ⟨c, hc, hfirm⟩ := h
  exact ⟨c, hsub hc, hfirm⟩

theorem fells_append : Fells (cs ++ cs') a ↔ Fells cs a ∨ Fells cs' a := by
  simp only [Fells, List.mem_append, or_and_right, exists_or]

theorem fells_flatMap {α : Type} {l : List α} {f : α → List Change} :
    Fells (l.flatMap f) a ↔ ∃ x ∈ l, Fells (f x) a := by
  simp only [Fells, List.mem_flatMap]
  constructor
  · rintro ⟨c, ⟨x, hx, hc⟩, hfirm⟩
    exact ⟨x, hx, c, hc, hfirm⟩
  · rintro ⟨x, hx, c, hc, hfirm⟩
    exact ⟨c, ⟨x, hx, hc⟩, hfirm⟩

theorem fells_singleton {c : Change} : Fells [c] a ↔ c.firm? = some a := by
  simp [Fells]

theorem fells_deletes {role : Role} (hrole : role ≠ .shared) {kind : Kind} {parents : List String}
    {found : List Resource} : Fells (deletes role kind parents found) a ↔
      ∃ r ∈ found, a = { kind, parents, id := r.id } := by
  have hfirm : ∀ k, (Change.delete role k).firm? = some k := by
    intro k
    cases role with
    | owned | auxiliary => rfl
    | shared => exact absurd rfl hrole
  constructor
  · rintro ⟨c, hc, hcfirm⟩
    obtain ⟨r, hr, rfl⟩ := List.mem_map.1 hc
    rw [hfirm] at hcfirm
    exact ⟨r, hr, (Option.some.inj hcfirm).symm⟩
  · rintro ⟨r, hr, rfl⟩
    exact ⟨_, List.mem_map_of_mem hr, hfirm _⟩

theorem not_fells_shared {kind : Kind} {parents : List String} {found : List Resource} :
    ¬ Fells (deletes .shared kind parents found) a := by
  rintro ⟨c, hc, hfirm⟩
  obtain ⟨r, -, rfl⟩ := List.mem_map.1 hc
  cases hfirm

/-- A change that nothing is in the way of is not refused. -/
theorem change_unobstructed {c : Change} (hw : s.WellFormed) (hfail : s.deleteFailures = [])
    (hreach : requireAccess p c.target.kind c.target.parents = .ok ())
    (h : ∀ k, c.firm? = some k → ∀ a, ¬ s.Obstructs a k) :
    c.mishap? p s = none ∧ ∀ k, c.firm? = some k → (c.apply p s).find? k = none := by
  cases hfirm : c.firm? with
  | none =>
    refine ⟨?_, nofun⟩
    rcases c with ⟨role, target⟩ | _
    · cases role with
      | owned | auxiliary => cases hfirm
      | shared => rfl
    · rfl
  | some k =>
    obtain ⟨role, rfl⟩ := eq_delete_of_firm? hfirm
    cases hr : s.find? k with
    | none =>
      refine ⟨mishap?_of_find?_none hr hreach, fun k' hk' => ?_⟩
      obtain rfl := Option.some.inj hk'
      exact find?_apply_none hr
    | some r =>
      have hdelete : Store.delete p k.kind k.parents k.id s = _ :=
        delete_of_obstacle?_none hreach hr
          (obstacle?_eq_none_of_unobstructed hw hfail hr (h k hfirm))
      refine ⟨?_, fun k' hk' => ?_⟩
      · cases role with
        | owned => rw [Change.mishap?, hdelete, Attempt.failure?]
        | auxiliary | shared => rfl
      · obtain rfl := Option.some.inj hk'
        simp [Change.apply, hdelete, find?]

namespace LeavesFirst

theorem mono (h : LeavesFirst s gone cs) (hgone : ∀ a, gone a → gone' a) :
    LeavesFirst s gone' cs := by
  induction cs generalizing gone gone' with
  | nil => trivial
  | cons c cs ih =>
    obtain ⟨hc, hcs⟩ := h
    refine ⟨fun k hk a ha => hgone a (hc k hk a ha), ih hcs fun a ha => ?_⟩
    exact ha.imp_left (hgone a)

theorem append (h : LeavesFirst s gone cs)
    (h' : LeavesFirst s (fun a => gone a ∨ Fells cs a) cs') : LeavesFirst s gone (cs ++ cs') := by
  induction cs generalizing gone with
  | nil => exact h'.mono fun a ha => ha.resolve_right (by simp [Fells])
  | cons c cs ih =>
    obtain ⟨hc, hcs⟩ := h
    refine ⟨hc, ih hcs (h'.mono fun a ha => ?_)⟩
    rcases ha with ha | ⟨c', hc', hfirm⟩
    · exact .inl (.inl ha)
    · rcases List.mem_cons.1 hc' with rfl | hc'
      · exact .inl (.inr hfirm)
      · exact .inr ⟨c', hc', hfirm⟩

theorem single {c : Change} (h : ∀ k, c.firm? = some k → ∀ a, s.Obstructs a k → gone a) :
    LeavesFirst s gone [c] := ⟨h, trivial⟩

/-- Changes in any order, if what is in their way is gone to begin with. -/
theorem of_all (h : ∀ k, Fells cs k → ∀ a, s.Obstructs a k → gone a) : LeavesFirst s gone cs := by
  induction cs generalizing gone with
  | nil => trivial
  | cons c cs ih =>
    refine ⟨fun k hk a ha => h k ⟨c, List.mem_cons_self, hk⟩ a ha, ih fun k hk a ha => ?_⟩
    obtain ⟨c', hc', hfirm⟩ := hk
    exact .inl (h k ⟨c', List.mem_cons_of_mem _ hc', hfirm⟩ a ha)

theorem flatMap {α : Type} {l : List α} {f : α → List Change}
    (h : ∀ before x after, l = before ++ x :: after →
      LeavesFirst s (fun a => gone a ∨ ∃ y ∈ before, Fells (f y) a) (f x)) :
    LeavesFirst s gone (l.flatMap f) := by
  induction l generalizing gone with
  | nil => trivial
  | cons x l ih =>
    rw [List.flatMap_cons]
    refine ((h [] x l rfl).mono fun a ha => ha.resolve_right (by simp)).append
      (ih fun before y after hl => ?_)
    refine (h (x :: before) y after (by rw [hl]; rfl)).mono fun a ha => ?_
    rcases ha with ha | ⟨z, hz, hfells⟩
    · exact .inl (.inl ha)
    · rcases List.mem_cons.1 hz with rfl | hz
      · exact .inl (.inr hfells)
      · exact .inr ⟨z, hz, hfells⟩

/-- Going leaves first, changes are not refused, and remove what they have to. -/
theorem clean (h : LeavesFirst s gone cs) (hw : s.WellFormed) (hthin : Thinned altered s t)
    (hfail : t.deleteFailures = []) (hgone : ∀ a, gone a → t.find? a = none)
    (hmild : ∀ c ∈ cs, c.Mild altered domain)
    (hreach : ∀ c ∈ cs, requireAccess p c.target.kind c.target.parents = .ok ()) :
    mishaps p cs t = [] ∧ ∀ k, Fells cs k → (applyAll p cs t).find? k = none := by
  induction cs generalizing t gone with
  | nil => exact ⟨rfl, fun k hk => by simp [Fells] at hk⟩
  | cons c cs ih =>
    obtain ⟨hc, hcs⟩ := h
    obtain ⟨hmildc, hmild⟩ := List.forall_mem_cons.1 hmild
    obtain ⟨hreachc, hreach⟩ := List.forall_mem_cons.1 hreach
    -- nothing that is left is in the way
    have hfree : ∀ k, c.firm? = some k → ∀ a, ¬ t.Obstructs a k := fun k hfirm a hobs =>
      hobs.2.1 (hgone a (hc k hfirm a (hthin.obstructs hobs)))
    obtain ⟨hmishap, hremoved⟩ := change_unobstructed (hthin.wellFormed hw) hfail hreachc hfree
    have hfail' : (c.apply p t).deleteFailures = [] :=
      (congrArg Prod.fst (failures_apply p c t)).trans hfail
    have hgone' : ∀ a, gone a ∨ c.firm? = some a → (c.apply p t).find? a = none := by
      intro a ha
      rcases ha with ha | ha
      · exact find?_apply_none (hgone a ha)
      · exact hremoved a ha
    obtain ⟨hrest, hfelled⟩ := ih hcs (hthin.apply hw hmildc) hfail' hgone' hmild hreach
    refine ⟨by rw [mishaps, hmishap, hrest]; rfl, fun k hk => ?_⟩
    obtain ⟨c', hc', hfirm⟩ := hk
    rw [applyAll_cons]
    rcases List.mem_cons.1 hc' with rfl | hc'
    · exact find?_applyAll_none (hremoved k hfirm)
    · exact hfelled k ⟨c', hc', hfirm⟩

end LeavesFirst

/-! ## What has gone before -/

/-- Where an object has gone, what was in its way was deleted before it. -/
theorem deleted_before (hw : s.WellFormed) (hmild : ∀ c ∈ cs, c.Mild altered domain)
    (hobs : s.Obstructs a k) (haltered : a.kind ∉ altered) (hk : s.find? k ≠ none)
    (hgone : (applyAll p cs s).find? k = none) :
    ∃ role role', [Change.delete role a, .delete role' k].Sublist cs := by
  obtain ⟨r, hr⟩ := Option.ne_none_iff_exists'.1 hk
  obtain ⟨before, c, after, r', rfl, -, hr', hremoved⟩ :=
    removal_of_gone hw.neat (fun c hc => (hmild c hc).withdraws) hr hgone
  have hthin : Thinned altered s (applyAll p before s) :=
    (Thinned.refl hw).applyAll hw fun c hc => hmild c (List.mem_append_left _ hc)
  obtain ⟨role', rfl, hfree⟩ := delete_of_removed hr' hremoved
  have hunobstructed := (unused_iff_unobstructed (hthin.wellFormed hw) hr').1
    (obstacle?_eq_none.1 hfree).2
  cases ha : (applyAll p before s).find? a with
  | some ra =>
    exact absurd (hthin.still_obstructs hobs haltered (by simp [ha]) (by simp [hr']))
      (hunobstructed a)
  | none =>
    obtain ⟨ra, hra⟩ := Option.ne_none_iff_exists'.1 hobs.2.1
    obtain ⟨role, hmem⟩ := delete_mem_of_removed hra ha
    exact ⟨role, role', (List.singleton_sublist.2 hmem).append
      (List.singleton_sublist.2 List.mem_cons_self)⟩

end Store

/-! ## What comes before what in a list made of parts -/

section

variable {α β : Type} {l : List α} {f : α → List β} {name : α → String} {x y : β}

theorem pair_sublist_flatMap (h : [x, y].Sublist (l.flatMap f)) :
    (∃ e ∈ l, [x, y].Sublist (f e)) ∨
      ∃ e e', [e, e'].Sublist l ∧ x ∈ f e ∧ y ∈ f e' := by
  induction l with
  | nil => simp at h
  | cons e l ih =>
    rw [List.flatMap_cons, List.sublist_append_iff] at h
    obtain ⟨l₁, l₂, hsplit, h₁, h₂⟩ := h
    rcases l₁ with _ | ⟨z, _ | ⟨z', l₁⟩⟩
    · -- both come later
      obtain rfl : [x, y] = l₂ := hsplit
      rcases ih h₂ with ⟨e', he', hpair⟩ | ⟨e', e'', hpair, hx, hy⟩
      · exact .inl ⟨e', List.mem_cons_of_mem _ he', hpair⟩
      · exact .inr ⟨e', e'', hpair.cons e, hx, hy⟩
    · obtain ⟨rfl, rfl⟩ := List.cons.inj hsplit
      obtain ⟨e', he', hy⟩ := List.mem_flatMap.1 (List.singleton_sublist.1 h₂)
      exact .inr ⟨e, e', (List.singleton_sublist.2 he').cons_cons e,
        List.singleton_sublist.1 h₁, hy⟩
    · simp only [List.cons_append, List.cons.injEq, List.nil_eq, List.append_eq_nil_iff] at hsplit
      obtain ⟨rfl, rfl, rfl, rfl⟩ := hsplit
      exact .inl ⟨e, List.mem_cons_self, h₁⟩

/-- Where the names of the parts ascend, the first of two items lies in the same part as the second
or in one with a smaller name. -/
theorem pair_in_order (hsorted : (l.map name).Pairwise (· < ·))
    (h : [x, y].Sublist (l.flatMap f)) : (∃ e ∈ l, [x, y].Sublist (f e)) ∨
      ∃ e ∈ l, ∃ e' ∈ l, name e < name e' ∧ x ∈ f e ∧ y ∈ f e' := by
  refine (pair_sublist_flatMap h).imp_right fun ⟨e, e', hpair, hx, hy⟩ => ?_
  have hlt := List.pairwise_cons.1 ((List.pairwise_map.1 hsorted).sublist hpair)
  exact ⟨e, hpair.subset List.mem_cons_self, e',
    hpair.subset (List.mem_cons_of_mem _ List.mem_cons_self), hlt.1 e' List.mem_cons_self, hx, hy⟩

/-- So the second item does not lie in a part with a smaller name. -/
theorem not_pair_of_lt (hsorted : (l.map name).Pairwise (· < ·)) {nx ny : String}
    (hx : ∀ e ∈ l, x ∈ f e → name e = nx) (hy : ∀ e ∈ l, y ∈ f e → name e = ny) (hlt : ny < nx) :
    ¬ [x, y].Sublist (l.flatMap f) := by
  intro h
  rcases pair_in_order hsorted h with ⟨e, he, hpair⟩ | ⟨e, he, e', he', hlt', hmem, hmem'⟩
  · have hsame : nx = ny := (hx e he (hpair.subset List.mem_cons_self)).symm.trans
      (hy e he (hpair.subset (List.mem_cons_of_mem _ List.mem_cons_self)))
    exact absurd (hsame ▸ hlt) (lt_irrefl _)
  · rw [hx e he hmem, hy e' he' hmem'] at hlt'
    exact absurd (hlt.trans hlt') (lt_irrefl _)

theorem sublist_left_of_not_mem {l l' : List β} (h : [x, y].Sublist (l ++ l')) (hy : y ∉ l') :
    [x, y].Sublist l := by
  obtain ⟨l₁, l₂, hsplit, h₁, h₂⟩ := List.sublist_append_iff.1 h
  rcases List.eq_nil_or_concat l₂ with rfl | ⟨init, last, rfl⟩
  · rw [hsplit, List.append_nil]
    exact h₁
  · -- the last item of the pair is in the second list
    have hlast : y = last := by
      have := congrArg List.getLast? hsplit
      simpa using this
    exact absurd (h₂.subset (by simp [hlast])) hy

theorem mem_before_of_lt (hsorted : (l.map name).Pairwise (· < ·)) {before after : List α}
    {e e' : α} (hsplit : l = before ++ e :: after) (he' : e' ∈ l) (hlt : name e' < name e) :
    e' ∈ before := by
  subst hsplit
  obtain ⟨-, hafter, -⟩ := List.pairwise_append.1 (List.pairwise_map.1 hsorted)
  rcases List.mem_append.1 he' with hbefore | hrest
  · exact hbefore
  · rcases List.mem_cons.1 hrest with rfl | hrest
    · exact absurd hlt (lt_irrefl _)
    · exact absurd (hlt.trans ((List.pairwise_cons.1 hafter).1 e' hrest)) (lt_irrefl _)

end

end NetSweep
