import Mathlib.Data.List.Lex
import NetSweep.Proofs.DecodedResources

/-!
# Filled stores

A store is filled by inserting objects that were read from JSON and by arranging failures.  Such a
store is well formed: its keys ascend, each object is named by its key and lies as deep as its
kind says, and its other fields are in canonical form.
-/

namespace NetSweep

theorem Kind.rank_injective : Function.Injective Kind.rank := by
  intro a b h
  rw [← Kind.ofNat_ctorIdx a, ← Kind.ofNat_ctorIdx b]
  exact congrArg Kind.ofNat h

attribute [ext] Address

instance : IsStrictTotalOrder Address (· < ·) where
  irrefl a h := by
    rcases h with h | ⟨-, h | ⟨-, h⟩⟩
    · exact lt_irrefl _ h
    · exact lt_irrefl _ h
    · exact lt_irrefl _ h
  trans a b c h h' := by
    rcases h with h | ⟨hk, h | ⟨hp, h⟩⟩ <;> rcases h' with h' | ⟨hk', h' | ⟨hp', h'⟩⟩
    · exact .inl (h.trans h')
    · exact .inl (hk' ▸ h)
    · exact .inl (hk' ▸ h)
    · exact .inl (hk ▸ h')
    · exact .inr ⟨hk.trans hk', .inl (h.trans h')⟩
    · exact .inr ⟨hk.trans hk', .inl (hp' ▸ h)⟩
    · exact .inl (hk ▸ h')
    · exact .inr ⟨hk.trans hk', .inl (hp ▸ h')⟩
    · exact .inr ⟨hk.trans hk', .inr ⟨hp.trans hp', h.trans h'⟩⟩
  trichotomous a b hab hba := by
    have hk : a.kind.rank = b.kind.rank :=
      le_antisymm (not_lt.1 fun h => hba (.inl h)) (not_lt.1 fun h => hab (.inl h))
    have hp : a.parents = b.parents := le_antisymm
      (not_lt.1 fun h => hba (.inr ⟨hk.symm, .inl h⟩)) (not_lt.1 fun h => hab (.inr ⟨hk, .inl h⟩))
    have hi : a.id = b.id := le_antisymm
      (not_lt.1 fun h => hba (.inr ⟨hk.symm, .inr ⟨hp.symm, h⟩⟩))
      (not_lt.1 fun h => hab (.inr ⟨hk, .inr ⟨hp, h⟩⟩))
    exact Address.ext (Kind.rank_injective hk) hp hi

namespace Store

/-- What inserting decoded objects and arranging failures makes of the empty store. -/
inductive Filled : Store → Prop
  | empty : Filled empty
  | insert {s s' : Store} {kind : Kind} {parents : List String} {r : Resource} {path : String}
      (filled : Filled s) (decoded : r.Decoded)
      (inserted : s.insert kind parents r = some (path, s')) : Filled s'
  | failDelete {s : Store} (filled : Filled s) (kind : Kind) (id : String) (e : BackendError) :
      Filled (s.failDelete kind id e)
  | failPatch {s : Store} (filled : Filled s) (kind : Kind) (id : String) (e : BackendError) :
      Filled (s.failPatch kind id e)
  | failList {s : Store} (filled : Filled s) (kind : Kind) (e : BackendError) :
      Filled (s.failList kind e)
  | failVersion {s : Store} (filled : Filled s) (e : BackendError) : Filled (s.failVersion e)

/-- What every object of a filled store is like under its key. -/
structure Fits (key : Address) (r : Resource) : Prop where
  id : r.id = key.id
  depth : key.parents.length = key.kind.parentCount
  path : key.kind.api = .policy → r.path.isSome = true
  proper : r.Proper

structure WellFormed (s : Store) : Prop where
  sorted : Assoc.Sorted s.objects
  fits : ∀ {key r}, s.find? key = some r → Fits key r

theorem Fits.parents_eq_nil {key : Address} {r : Resource} (h : Fits key r) {kind : Kind}
    (hkind : key.kind = kind) (hcount : kind.parentCount = 0) : key.parents = [] :=
  List.length_eq_zero_iff.1 (h.depth.trans (hkind ▸ hcount))

variable {s : Store}

theorem WellFormed.mem_iff (h : s.WellFormed) {key : Address} {r : Resource} :
    (key, r) ∈ s.objects ↔ s.find? key = some r := h.sorted.find?_eq_some_iff.symm

theorem fits_complete {key : Address} {r : Resource} (hr : r.Decoded) (hid : r.id = key.id)
    (hdepth : key.parents.length = key.kind.parentCount) : Fits key (complete key r) where
  id := hid
  depth := hdepth
  path h := by simp [complete, h]
  proper := ⟨hr.proper.sorted, hr.proper.apart, hr.proper.canonical⟩

theorem WellFormed.insert (h : s.WellFormed) {s' : Store} {kind : Kind} {parents : List String}
    {r : Resource} {path : String} (hr : r.Decoded)
    (hs : s.insert kind parents r = some (path, s')) : s'.WellFormed := by
  unfold Store.insert at hs
  split at hs
  · rename_i hdepth
    obtain ⟨-, rfl⟩ := Prod.mk.inj (Option.some.inj hs)
    refine ⟨Assoc.sorted_insert _ _ h.sorted, fun {key r'} hr' => ?_⟩
    by_cases hk : key = { kind, parents, id := r.id }
    · subst hk
      simp only [find?, Assoc.find?_insert_self, Option.some.injEq] at hr'
      exact hr' ▸ fits_complete hr rfl hdepth
    · simp only [find?, Assoc.find?_insert_ne hk] at hr'
      exact h.fits hr'
  · cases hs

def insertAll (s : Store) (objects : List (Kind × List String × Resource)) : Option Store :=
  objects.foldlM (fun s o => (s.insert o.1 o.2.1 o.2.2).map Prod.snd) s

theorem Filled.insertAll (h : s.Filled) (objects : List (Kind × List String × Resource))
    (hread : ∀ o ∈ objects, Resource.ofJson? o.2.2.toJson = some o.2.2) {s' : Store}
    (hinserted : s.insertAll objects = some s') : s'.Filled := by
  induction objects generalizing s with
  | nil =>
    obtain rfl := Option.some.inj hinserted
    exact h
  | cons o objects ih =>
    obtain ⟨hfirst, hrest⟩ := List.forall_mem_cons.1 hread
    obtain ⟨s₁, hstep, hinserted⟩ := Option.bind_eq_some_iff.1 hinserted
    obtain ⟨⟨path, s₁⟩, hinsert, rfl⟩ := Option.map_eq_some_iff.1 hstep
    exact ih (h.insert ⟨_, hfirst⟩ hinsert) hrest hinserted

theorem Filled.wellFormed (h : s.Filled) : s.WellFormed := by
  induction h with
  | empty => exact ⟨List.Pairwise.nil, fun hr => by simp [find?, Store.empty] at hr⟩
  | insert _ decoded inserted ih => exact ih.insert decoded inserted
  | failDelete _ _ _ _ ih | failPatch _ _ _ _ ih => exact ⟨ih.sorted, ih.fits⟩
  | failList _ _ _ ih | failVersion _ _ ih => exact ⟨ih.sorted, ih.fits⟩

/-! ## What deletes and updates do -/

variable {p : Bool} {key : Address}

/-- A delete either leaves the store as it is, or removes an object that nothing keeps. -/
theorem delete_cases (p : Bool) (key : Address) (s : Store) :
    (Store.delete p key.kind key.parents key.id s).2 = s ∨
      ∃ r, requireAccess p key.kind key.parents = .ok () ∧ s.find? key = some r ∧
        s.obstacle? key r = none ∧ (Store.delete p key.kind key.parents key.id s).2 =
          { s with
            objects := Assoc.erase key s.objects
            deleted := s.deleted ++ [(key.kind, key.id)] } := by
  unfold Store.delete
  split
  · exact .inl rfl
  · rename_i haccess
    dsimp only
    split
    · exact .inl rfl
    · rename_i r hr
      split
      · exact .inl rfl
      · rename_i hobstacle
        exact .inr ⟨r, haccess, hr, hobstacle, rfl⟩

/-- A delete of an object that is stored where its kind is and that nothing keeps removes it. -/
theorem delete_of_obstacle?_none {r : Resource}
    (haccess : requireAccess p key.kind key.parents = .ok ()) (hr : s.find? key = some r)
    (h : s.obstacle? key r = none) :
    Store.delete p key.kind key.parents key.id s =
      (.ok (), { s with
        objects := Assoc.erase key s.objects
        deleted := s.deleted ++ [(key.kind, key.id)] }) := by
  simp only [Store.delete, haccess, hr, h]

/-- An update either leaves the store as it is, or puts the merged object in the place of the
old one. -/
theorem patch_cases (p : Bool) (key : Address) (body : Json) (s : Store) :
    (Store.patch p key.kind key.parents key.id body s).2 = s ∨
      ∃ r r', requireAccess p key.kind key.parents = .ok () ∧ s.find? key = some r ∧
        patchResource? r body = some r' ∧
        Assoc.find? (key.kind, key.id) s.patchFailures = none ∧
        (Store.patch p key.kind key.parents key.id body s).2 =
          { s with
            objects := Assoc.insert key r' s.objects
            patched := s.patched ++ [(key.kind, key.id)] } := by
  unfold Store.patch
  split
  · exact .inl rfl
  · rename_i haccess
    split
    · exact .inl rfl
    · rename_i hfailure
      dsimp only
      split
      · exact .inl rfl
      · rename_i r hr
        split
        · exact .inl rfl
        · rename_i r' hr'
          exact .inr ⟨r, r', haccess, hr, hr', hfailure, rfl⟩

/-- An update of an object that is stored where its kind is goes through if no failure is
arranged for it. -/
theorem patch_of_found {body : Json} {r r' : Resource}
    (haccess : requireAccess p key.kind key.parents = .ok ()) (hr : s.find? key = some r)
    (hr' : patchResource? r body = some r')
    (hf : Assoc.find? (key.kind, key.id) s.patchFailures = none) :
    Store.patch p key.kind key.parents key.id body s =
      (.ok (), { s with
        objects := Assoc.insert key r' s.objects
        patched := s.patched ++ [(key.kind, key.id)] }) := by
  simp only [Store.patch, haccess, hf, hr, hr']

/-! ## A store that two deployments share -/

/-- Two deployments have a router each, the first one's with a rule inside, and a group of the
same id in a domain of their own.  The group in the other domain is linked to the first router. -/
def shared : Store :=
  let router : Address := { kind := .tier1, parents := [], id := "ours" }
  let group (domain : String) : Address := { kind := .group, parents := [domain], id := "g" }
  let rule : Address := { kind := .tier1NatRule, parents := ["ours"], id := "rule" }
  { empty with
    objects :=
      [(group "default", complete (group "default") (.foreign "g")),
       (group "other", complete (group "other")
         ((Resource.bare "g").withTag { scope := routerScope, tag := "ours" })),
       (router, complete router (.owned "ours")),
       ({ router with id := "theirs" },
         complete { router with id := "theirs" } (.foreign "theirs")),
       (rule, complete rule (.bare "rule"))] }

theorem shared_filled : shared.Filled :=
  Filled.empty.insertAll
    [(.tier1, [], .owned "ours"), (.tier1, [], .foreign "theirs"),
      (.tier1NatRule, ["ours"], .bare "rule"), (.group, ["default"], .foreign "g"),
      (.group, ["other"], (Resource.bare "g").withTag { scope := routerScope, tag := "ours" })]
    (by decide) rfl

end Store

end NetSweep
