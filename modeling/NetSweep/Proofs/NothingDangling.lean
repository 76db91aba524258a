import Mathlib.Logic.Relation
import NetSweep.Proofs.Replays

/-!
# Nothing dangles

A store refuses to delete what contains another object or is mentioned by one, so whatever cleanup
does to it, every object keeps its container, and nobody mentions what is gone.  No update brings
back a mention, since an update only withdraws fields.
-/

namespace NetSweep

open Cleanup Change

namespace Address

/-- The ids on the way to an object, from the outermost container inwards. -/
def trail (k : Address) : List String := k.parents ++ [k.id]

variable {outer outer' inner : Address}

/-- The second object lies inside the first, at any depth. -/
def Encloses (outer inner : Address) : Prop :=
  Relation.TransGen (fun a b => a.contains b = true) outer inner

theorem kind_of_contains (h : outer.contains inner = true) :
    inner.kind.parent? = some outer.kind := by
  simp only [contains, decide_eq_true_eq] at h
  exact h.1

theorem parents_of_contains (h : outer.contains inner = true) :
    inner.parents = outer.parents ++ [outer.id] := by
  simp only [contains, decide_eq_true_eq] at h
  exact h.2

theorem eq_of_contains (h : outer.contains inner = true) (h' : outer'.contains inner = true) :
    outer = outer' := by
  have hk : outer.kind = outer'.kind :=
    Option.some.inj ((kind_of_contains h).symm.trans (kind_of_contains h'))
  obtain ⟨hps, hid⟩ :=
    List.append_inj' ((parents_of_contains h).symm.trans (parents_of_contains h')) rfl
  exact Address.ext hk hps (List.cons.inj hid).1

end Address

namespace Store

/-- Every object that belongs inside another has one around it. -/
def Housed (s : Store) : Prop :=
  ∀ inner : Address, s.find? inner ≠ none → inner.kind.parent?.isSome = true →
    ∃ outer : Address, outer.contains inner = true ∧ s.find? outer ≠ none

def Unmentioned (s : Store) (target : String) : Prop :=
  ∀ k r, s.find? k = some r → r.mentions target = false

variable {s : Store} {p : Bool} {c : Change} {cs : List Change}

/-- An object of a store after a change was there before, or an update has rewritten it. -/
theorem found_before_change {k : Address} {r' : Resource} (hr' : (c.apply p s).find? k = some r') :
    s.find? k = some r' ∨ ∃ body r, c = .update k body ∧ s.find? k = some r ∧
      patchResource? r body = some r' := by
  by_cases hk : k = c.target
  · cases c with
    | delete role k' =>
      obtain rfl : k = k' := hk
      rcases delete_cases p k s with h | ⟨r, -, -, -, h⟩
      · rw [Change.apply, h] at hr'
        exact .inl hr'
      · simp [Change.apply, h, find?] at hr'
    | update k' body =>
      obtain rfl : k = k' := hk
      rcases patch_cases p k body s with h | ⟨r, r₁, -, hr, hr₁, -, h⟩
      · rw [Change.apply, h] at hr'
        exact .inl hr'
      · obtain rfl : r₁ = r' := by simpa [Change.apply, h, find?] using hr'
        exact .inr ⟨body, r, rfl, hr, hr₁⟩
  · rw [find?_apply_of_ne hk] at hr'
    exact .inl hr'

theorem Unmentioned.apply {target : String} (h : s.Unmentioned target) (hc : c.Withdraws) :
    (c.apply p s).Unmentioned target := by
  intro k r' hr'
  rcases found_before_change hr' with hr | ⟨body, r, rfl, hr, hpatch⟩
  · exact h k r' hr
  · obtain ⟨names, rfl, -⟩ := hc k body rfl
    refine Bool.eq_false_iff.2 fun hmentions => ?_
    have hbefore := Resource.mentions_of_patch hpatch hmentions
    rw [h k r hr] at hbefore
    cases hbefore

theorem Unmentioned.applyAll {target : String} (h : s.Unmentioned target)
    (hcs : ∀ c ∈ cs, c.Withdraws) : (applyAll p cs s).Unmentioned target := by
  induction cs generalizing s with
  | nil => exact h
  | cons c cs ih =>
    have hstep := h.apply (p := p) (hcs c List.mem_cons_self)
    exact ih hstep fun c hc => hcs c (List.mem_cons_of_mem _ hc)

/-- What is deleted was mentioned by nobody. -/
theorem unmentioned_of_removed {k : Address} {r : Resource} (hr : s.find? k = some r)
    (hgone : (c.apply p s).find? k = none) :
    (c.apply p s).Unmentioned (handle k.kind k.id r) := by
  obtain ⟨role, rfl, hfree⟩ := delete_of_removed hr hgone
  have hreferrer := referrerOf?_eq_none.1 (obstacle?_eq_none.1 hfree).2.2
  intro k' r' hr'
  have hne : k' ≠ k := by
    rintro rfl
    rw [hgone] at hr'
    cases hr'
  have hbefore : s.find? k' = some r' := by
    rwa [find?_apply_of_ne hne] at hr'
  exact hreferrer (k', r') (Assoc.mem_of_find? hbefore) hne

theorem housed_iff_keys : s.Housed ↔ ∀ inner ∈ Assoc.keys s.objects,
    inner.kind.parent?.isSome = true →
      ∃ outer ∈ Assoc.keys s.objects, outer.contains inner = true := by
  have hstored : ∀ k, s.find? k ≠ none ↔ k ∈ Assoc.keys s.objects := fun k =>
    Option.ne_none_iff_exists'.trans Assoc.mem_keys_iff.symm
  simp only [Housed, hstored, and_comm]

instance (s : Store) : Decidable s.Housed := decidable_of_iff _ housed_iff_keys.symm

/-- What an object lies in is stored if the object is. -/
theorem Housed.container_stored (h : s.Housed) {outer inner : Address} (hinner : s.find? inner ≠ none)
    (hcontains : outer.contains inner = true) : s.find? outer ≠ none := by
  have hplace : inner.kind.parent?.isSome = true := by
    rw [Address.kind_of_contains hcontains]
    rfl
  obtain ⟨outer', hcontains', hstored⟩ := h inner hinner hplace
  rwa [Address.eq_of_contains hcontains hcontains']

theorem Housed.encloser_stored (h : s.Housed) {outer inner : Address} (hinside : outer.Encloses inner)
    (hinner : s.find? inner ≠ none) : s.find? outer ≠ none := by
  induction hinside using Relation.TransGen.head_induction_on with
  | single hcontains => exact h.container_stored hinner hcontains
  | head hcontains _ ih => exact h.container_stored ih hcontains

theorem Housed.apply (h : s.Housed) : (c.apply p s).Housed := by
  intro inner hinner hplace
  have hbefore : s.find? inner ≠ none := fun hnone => hinner (find?_apply_none hnone)
  obtain ⟨outer, hcontains, houter⟩ := h inner hbefore hplace
  refine ⟨outer, hcontains, fun hgone => ?_⟩
  obtain ⟨r, hr⟩ := Option.ne_none_iff_exists'.1 houter
  obtain ⟨ri, hri⟩ := Option.ne_none_iff_exists'.1 hbefore
  -- the delete of the container would have been refused
  obtain ⟨role, rfl, hfree⟩ := delete_of_removed hr hgone
  have hempty := childOf?_eq_none.1 (obstacle?_eq_none.1 hfree).2.1
  have hout : outer.contains inner = false := hempty (inner, ri) (Assoc.mem_of_find? hri)
  rw [hcontains] at hout
  cases hout

theorem Housed.applyAll (h : s.Housed) : (applyAll p cs s).Housed := by
  induction cs generalizing s with
  | nil => exact h
  | cons c cs ih => exact ih h.apply

/-! ## What goes, and when -/

/-- Every object keeps its other fields apart from its own ones, as objects read from JSON do. -/
def Neat (s : Store) : Prop := ∀ {k r}, s.find? k = some r → r.Proper

theorem WellFormed.neat (hs : s.WellFormed) : s.Neat := fun hr => (hs.fits hr).proper

theorem trimmed_by_change (hs : s.Neat) (hc : c.Withdraws) {k : Address} {r' : Resource}
    (hr' : (c.apply p s).find? k = some r') : ∃ r, s.find? k = some r ∧ r'.TrimOf r := by
  rcases found_before_change hr' with hr | ⟨body, r, rfl, hr, hpatch⟩
  · exact ⟨r', hr, .refl r'⟩
  · obtain ⟨names, rfl, hnames⟩ := hc k body rfl
    rw [Resource.patchResource?_withdrawal (hs hr) hnames] at hpatch
    obtain rfl := Option.some.inj hpatch
    exact ⟨r, hr, r.without_trimOf names⟩

theorem Neat.apply (hs : s.Neat) (hc : c.Withdraws) : (c.apply p s).Neat := by
  intro k r' hr'
  obtain ⟨r, hr, htrim⟩ := trimmed_by_change hs hc hr'
  exact htrim.proper (hs hr)

/-- An object that changes have removed went at one of them, and up to that one it kept its path. -/
theorem removal_of_gone (hs : s.Neat) (hcs : ∀ c ∈ cs, c.Withdraws) {k : Address} {r : Resource}
    (hr : s.find? k = some r) (hgone : (applyAll p cs s).find? k = none) :
    ∃ before c after r', cs = before ++ c :: after ∧ r'.TrimOf r ∧
      (applyAll p before s).find? k = some r' ∧
      (c.apply p (applyAll p before s)).find? k = none := by
  induction cs generalizing s r with
  | nil =>
    rw [applyAll_nil, hr] at hgone
    cases hgone
  | cons c cs ih =>
    have hc := hcs c List.mem_cons_self
    have hrest : ∀ c ∈ cs, c.Withdraws := fun c hc => hcs c (List.mem_cons_of_mem _ hc)
    cases hnext : (c.apply p s).find? k with
    | none => exact ⟨[], c, cs, r, rfl, .refl r, hr, hnext⟩
    | some r₁ =>
      obtain ⟨r₀, hr₀, htrim₀⟩ := trimmed_by_change hs hc hnext
      obtain rfl : r = r₀ := Option.some.inj (hr.symm.trans hr₀)
      obtain ⟨before, c', after, r', rfl, htrim, hfound, hremoved⟩ :=
        ih (hs.apply hc) hrest hnext hgone
      exact ⟨c :: before, c', after, r', rfl, htrim.trans htrim₀, hfound, hremoved⟩

theorem unmentioned_after_removal (hcs : ∀ c ∈ cs, c.Withdraws) {before after : List Change}
    (hsplit : cs = before ++ c :: after) {k : Address} {r : Resource}
    (hr : (applyAll p before s).find? k = some r)
    (hgone : (c.apply p (applyAll p before s)).find? k = none) :
    (applyAll p cs s).Unmentioned (handle k.kind k.id r) := by
  subst hsplit
  rw [applyAll_append, applyAll_cons]
  refine (unmentioned_of_removed hr hgone).applyAll fun c hc => hcs c ?_
  exact List.mem_append_right _ (List.mem_cons_of_mem _ hc)

/-! ## Refusals -/

variable {kind : Kind} {parents : List String} {id : String} {e : BackendError}

theorem delete_error (h : (Store.delete p kind parents id s).1 = .error e) :
    (Store.delete p kind parents id s).2 = s := by
  revert h
  fun_cases Store.delete p kind parents id s <;> simp

theorem patch_error {body : Json} (h : (Store.patch p kind parents id body s).1 = .error e) :
    (Store.patch p kind parents id body s).2 = s := by
  revert h
  fun_cases Store.patch p kind parents id body s <;> simp

end Store

namespace Sweep

open Store

/-- A cleanup that somebody asks for: of one category, or of a whole plan. -/
inductive Errand where
  | one (c : Sweep Store) (category : Category)
  | all (c : Sweep Store)

namespace Errand

def sweep : Errand → Sweep Store
  | one c _ | all c => c

def run : Errand → Trace Store → Trace Store
  | one c category, t => (c.sweepCategory category t).2
  | all c, t => (c.sweepAll t).2

def runAll (errands : List Errand) (t : Trace Store) : Trace Store :=
  errands.foldl (fun t errand => errand.run t) t

end Errand

variable {p : Bool} {t : Trace Store}

/-- The changes that a journal holds beyond the first of its events. -/
def changesSince (t t' : Trace Store) : List Change :=
  (t'.journal.drop t.journal.length).filterMap Event.change?

theorem changesSince_trans {t' t'' : Trace Store}
    (h : Replays p t.journal t.backend t'.journal t'.backend)
    (h' : Replays p t'.journal t'.backend t''.journal t''.backend) :
    changesSince t t'' = changesSince t t' ++ changesSince t' t'' := by
  obtain ⟨events, hjournal, -⟩ := h
  obtain ⟨events', hjournal', -⟩ := h'
  have hfirst : t'.journal.drop t.journal.length = events := by rw [hjournal, List.drop_left]
  have hsecond : t''.journal.drop t'.journal.length = events' := by rw [hjournal', List.drop_left]
  have hboth : t''.journal.drop t.journal.length = events ++ events' := by
    rw [hjournal', hjournal, List.append_assoc, List.drop_left]
  rw [changesSince, changesSince, changesSince, hfirst, hsecond, hboth, List.filterMap_append]

theorem run_replays {errand : Errand} (hb : errand.sweep.backend = Store.backend p)
    (t : Trace Store) : Replays p t.journal t.backend (errand.run t).journal
      (errand.run t).backend := by
  cases errand with
  | one c category => exact sweepCategory_replays hb category t
  | all c => exact sweepAll_replays hb t

theorem runAll_replays {errands : List Errand}
    (hb : ∀ errand ∈ errands, errand.sweep.backend = Store.backend p) (t : Trace Store) :
    Replays p t.journal t.backend (Errand.runAll errands t).journal
      (Errand.runAll errands t).backend := by
  induction errands generalizing t with
  | nil => exact .refl t.journal t.backend
  | cons errand errands ih =>
    have hfirst := run_replays (hb errand List.mem_cons_self) t
    exact hfirst.trans (ih (fun e he => hb e (List.mem_cons_of_mem _ he)) (errand.run t))

/-- Whatever cleanups are run on a store, one after another, every object that belongs inside
another keeps its container.  The store they leave is made by the changes in the journal.  When
one of these removes an object, nothing that is left in the end mentions the object by the path
that it had, or by its id; where objects were read from JSON, that path is the one that the object
had from the start.  A change that is refused changes nothing. -/
theorem cleanup_leaves_nothing_dangling (errands : List Errand) (t : Trace Store)
    (hb : ∀ errand ∈ errands, errand.sweep.backend = Store.backend p)
    (hhoused : t.backend.Housed) :
    let t' := Errand.runAll errands t
    t'.backend.Housed ∧
    t'.backend = applyAll p (changesSince t t') t.backend ∧
    (∀ before c after k r, changesSince t t' = before ++ c :: after →
      (applyAll p before t.backend).find? k = some r →
      (c.apply p (applyAll p before t.backend)).find? k = none →
        t'.backend.Unmentioned (handle k.kind k.id r)) ∧
    (t.backend.Filled → ∀ k r, t.backend.find? k = some r → t'.backend.find? k = none →
      t'.backend.Unmentioned (handle k.kind k.id r)) ∧
    (∀ (s : Store) kind parents id e, (Store.delete p kind parents id s).1 = .error e →
      (Store.delete p kind parents id s).2 = s) ∧
    ∀ (s : Store) kind parents id body e, (Store.patch p kind parents id body s).1 = .error e →
      (Store.patch p kind parents id body s).2 = s := by
  dsimp only
  obtain ⟨events, hjournal, hback, hmild⟩ := runAll_replays hb t
  have hchanges : changesSince t (Errand.runAll errands t) = events.filterMap Event.change? := by
    rw [changesSince, hjournal, List.drop_left]
  rw [hchanges, hback]
  have hremoval : ∀ before c after k r, events.filterMap Event.change? = before ++ c :: after →
      (applyAll p before t.backend).find? k = some r →
      (c.apply p (applyAll p before t.backend)).find? k = none →
        (applyAll p (events.filterMap Event.change?) t.backend).Unmentioned
          (handle k.kind k.id r) := fun before c after k r hsplit hr hgone =>
    unmentioned_after_removal hmild hsplit hr hgone
  refine ⟨hhoused.applyAll, rfl, hremoval, fun hfilled k r hr hgone => ?_,
    fun s kind parents id e h => delete_error h, fun s kind parents id body e h => patch_error h⟩
  obtain ⟨before, c, after, r', hsplit, htrim, hfound, hremoved⟩ :=
    removal_of_gone hfilled.wellFormed.neat hmild hr hgone
  have hhandle : handle k.kind k.id r' = handle k.kind k.id r := by
    simp only [handle, htrim.path]
  rw [← hhandle]
  exact hremoval before c after k r' hsplit hfound hremoved

/-- A whole cleanup and one more of the routers take a router and its rule out of the shared store;
what they leave has its containers and does not mention the router. -/
theorem swept_router_unmentioned :
    let c := standard (Store.backend false) none .default
    let t' := Errand.runAll [.all c, .one c .tier1Routers] (.start shared)
    let ours : Address := { kind := .tier1, parents := [], id := "ours" }
    t'.backend.find? ours = none ∧ t'.backend.Housed ∧
      t'.backend.Unmentioned (handle .tier1 "ours" (complete ours (.owned "ours"))) := by
  have hhoused : shared.Housed := by
    have hrule : ∀ k ∈ Assoc.keys shared.objects, k.kind.parent?.isSome = true →
        Address.contains { kind := .tier1, parents := [], id := "ours" } k = true := by decide
    intro inner hinner hplace
    have hmem := Assoc.mem_keys_iff.2 (Option.ne_none_iff_exists'.1 hinner)
    exact ⟨_, hrule inner hmem hplace, by decide⟩
  have hgone : (Errand.runAll
      [.all (standard (Store.backend false) none .default),
        .one (standard (Store.backend false) none .default) .tier1Routers]
      (.start shared)).backend.find? { kind := .tier1, parents := [], id := "ours" } = none := by
    decide +kernel
  obtain ⟨hleft, -, -, hunmentioned, -⟩ := cleanup_leaves_nothing_dangling (p := false)
    [.all (standard (Store.backend false) none .default),
      .one (standard (Store.backend false) none .default) .tier1Routers]
    (.start shared) (by simp [Errand.sweep, standard]) hhoused
  exact ⟨hgone, hleft, hunmentioned shared_filled _ _ rfl hgone⟩

end Sweep

end NetSweep
