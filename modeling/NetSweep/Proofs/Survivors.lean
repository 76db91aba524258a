import NetSweep.Proofs.AskedChanges
import NetSweep.Proofs.DryRun
import NetSweep.Proofs.LeavesFirst
import NetSweep.Proofs.NothingDangling
import NetSweep.Proofs.OwnershipSafety

/-!
# Survivors

What cleanups leave of a store was there before.  An object that survives is the one that it was,
except that a segment may have been taken off its router, and a logical port detached from DHCP;
either loses the fields that say so, and nothing else.  One cleanup does no more than another on
what is left: to take a field away twice is to take it away once.
-/

namespace NetSweep

open Cleanup Store Change

/-- The other fields that updates withdraw from an object of the kind. -/
def Kind.withdrawn : Kind → List String
  | segment => ["connectivity_path", "subnets"]
  | logicalPort => ["attachment"]
  | _ => []

theorem Resource.without_without (names : List String) (r : Resource) :
    (r.without names).without names = r.without names := by
  simp [Resource.without]

namespace Cleanup.Setting

variable {s : Setting Store} {b : Store} {k : Address} {body : Json}

theorem body_of_mem_segmentInterfaces (h : .update k body ∈ s.changes .segmentInterfaces b) :
    body = disconnection := by
  rcases List.mem_append.1 h with h | h
  · obtain ⟨segment, -, h⟩ := List.mem_flatMap.1 h
    rcases List.mem_append.1 h with h | h
    · obtain ⟨r, -, heq⟩ := mem_deletes.1 h
      cases heq
    · rw [List.mem_ite_nil_right] at h
      cases List.mem_singleton.1 h.2
      rfl
  · obtain ⟨router, -, h⟩ := List.mem_flatMap.1 h
    obtain ⟨service, -, h⟩ := List.mem_flatMap.1 h
    obtain ⟨r, -, heq⟩ := mem_deletes.1 h
    cases heq

theorem body_of_mem_dhcp (h : .update k body ∈ s.changes .dhcp b) : body = detachment := by
  rw [changes, List.mem_ite_nil_right] at h
  rcases List.mem_append.1 h.2 with h | h
  · obtain ⟨port, -, h⟩ := List.mem_flatMap.1 h
    obtain ⟨-, heq | heq⟩ := mem_servicePortRemoval.1 h
    · cases heq
      rfl
    · cases heq
  · obtain ⟨r, -, heq⟩ := mem_deletes.1 h
    cases heq

end Cleanup.Setting

namespace Sweep

variable {c : Sweep Store} {category : Category} {base s t u : Store} {p : Bool} {k : Address}
  {r : Resource} {body : Json}

theorem Detached.rebase (h : c.Detached category s k r) (hr : base.find? k = some r) :
    c.Detached category base k r := ⟨⟨hr, h.1.2⟩, h.2⟩

/-- An update that a category asks for withdraws the fields of the object's kind. -/
theorem body_of_mem_changes (hs : (c.setting category).OnStore p) (hw : base.WellFormed)
    (hr : base.find? k = some r) (h : .update k body ∈ (c.setting category).changes category base) :
    c.Detached category base k r ∧ body = .object (k.kind.withdrawn.map (·, .null)) := by
  have hdetached : c.Detached category base k r := changes_warranted hs hw h r hr
  refine ⟨hdetached, ?_⟩
  rcases hdetached.2 with ⟨rfl, hkind, -⟩ | ⟨rfl, hkind, -⟩
  · rw [hkind, Setting.body_of_mem_segmentInterfaces h]
    rfl
  · rw [hkind, Setting.body_of_mem_dhcp h]
    rfl

/-! ## What is left of a store -/

/-- Every object of the second store is one of the first, or what its detachment by one of some
sweeps makes of it. -/
def Survives (W : Sweep Store → Category → Prop) (s t : Store) : Prop :=
  ∀ k r', t.find? k = some r' → ∃ r, s.find? k = some r ∧
    (r' = r ∨ (∃ c category, W c category ∧ c.Detached category s k r) ∧
      r' = r.without k.kind.withdrawn)

namespace Survives

variable {W W' : Sweep Store → Category → Prop}

theorem refl (W : Sweep Store → Category → Prop) (s : Store) : Survives W s s :=
  fun _ r' hr' => ⟨r', hr', .inl rfl⟩

theorem mono (h : Survives W s t) (hsub : ∀ c category, W c category → W' c category) :
    Survives W' s t := by
  intro k r' hr'
  obtain ⟨r, hr, hsame | ⟨⟨c, category, hW, hdetached⟩, hless⟩⟩ := h k r' hr'
  · exact ⟨r, hr, .inl hsame⟩
  · exact ⟨r, hr, .inr ⟨⟨c, category, hsub c category hW, hdetached⟩, hless⟩⟩

theorem trans (h : Survives W s t) (h' : Survives W t u) : Survives W s u := by
  intro k r'' hr''
  obtain ⟨r', hr', hlast⟩ := h' k r'' hr''
  obtain ⟨r, hr, rfl | ⟨hdetached, rfl⟩⟩ := h k r' hr'
  · refine ⟨r', hr, hlast.imp id ?_⟩
    rintro ⟨⟨c, category, hW, hdetached⟩, hless⟩
    exact ⟨⟨c, category, hW, hdetached.rebase hr⟩, hless⟩
  · refine ⟨r, hr, .inr ⟨hdetached, ?_⟩⟩
    rcases hlast with rfl | ⟨-, rfl⟩
    · rfl
    · exact Resource.without_without _ _

end Survives

variable {W : Sweep Store → Category → Prop} {t : Trace Store}

/-- A change that a category asks for of a store detaches an object, at most. -/
theorem apply_survives (hs : (c.setting category).OnStore p) (hw : base.WellFormed)
    (hW : W c category) {b : Store} (h : Survives W base b) (hneat : b.Neat) {ch : Change}
    (hch : ch ∈ (c.setting category).changes category base) :
    Survives W base (ch.apply p b) ∧ (ch.apply p b).Neat := by
  have hmild := (hs.sweep hw category).1 ch hch
  refine ⟨fun k r' hr' => ?_, hneat.apply hmild.withdraws⟩
  rcases found_before_change hr' with hsame | ⟨body, r₁, rfl, hr₁, hpatch⟩
  · exact h k r' hsame
  · obtain ⟨r, hr, hbefore⟩ := h k r₁ hr₁
    obtain ⟨hdetached, rfl⟩ := body_of_mem_changes hs hw hr hch
    have hnames : ∀ name ∈ k.kind.withdrawn, name ∉ Resource.ownKeys := by
      cases k.kind <;> decide
    rw [Resource.patchResource?_withdrawal (hneat hr₁) hnames] at hpatch
    obtain rfl := Option.some.inj hpatch
    refine ⟨r, hr, .inr ⟨⟨c, category, hW, hdetached⟩, ?_⟩⟩
    rcases hbefore with rfl | ⟨-, rfl⟩
    · rfl
    · exact Resource.without_without _ _

theorem applyAll_survives (hs : (c.setting category).OnStore p) (hw : base.WellFormed)
    (hW : W c category) {b : Store} (h : Survives W base b) (hneat : b.Neat) {done : List Change}
    (hdone : done ⊆ (c.setting category).changes category base) :
    Survives W base (applyAll p done b) := by
  induction done generalizing b with
  | nil => exact h
  | cons ch done ih =>
    obtain ⟨hfirst, hrest⟩ := List.cons_subset.1 hdone
    obtain ⟨hleft, hneat'⟩ := apply_survives hs hw hW h hneat hfirst
    exact ih hleft hneat' hrest

/-! ## What cleanups leave -/

/-- Whether the errand can change what it cleans up, and cleans up a category. -/
def Errand.Covers (errand : Errand) (category : Category) : Prop :=
  errand.sweep.config.dryRun = false ∧ match errand with
    | .one _ category' => category = category'
    | .all c => ∃ step ∈ c.plan.steps, step.category = category

theorem sweepCategory_survives (hb : c.backend = Store.backend p) (hw : t.backend.WellFormed)
    (category : Category) :
    (c.sweepCategory category t).2.backend.WellFormed ∧
      Survives (fun c' category' => c' = c ∧ c.config.dryRun = false ∧ category' = category)
        t.backend (c.sweepCategory category t).2.backend := by
  cases hdry : c.config.dryRun with
  | true =>
    have hreads : c.backend.ReadsKeep (· = t.backend) := by
      rw [hb]
      exact Store.backend_readsKeep p _
    have hsame : (c.sweepCategory category t).2.backend = t.backend :=
      (sweepCategory_dry hdry hreads category t rfl).1
    rw [hsame]
    exact ⟨hw, .refl _ _⟩
  | false =>
    have hs : (c.setting category).OnStore p := onStore hb hdry
    obtain ⟨done, hdone, hback⟩ := sweepCategory_done hs hw
    have hmild : ∀ ch ∈ done, ch.Mild category.altered c.config.domain := fun ch hch =>
      mild_of_mem_changes hs hw ch (hdone.subset hch)
    rw [hback]
    exact ⟨((Thinned.refl hw).applyAll hw hmild).wellFormed hw,
      applyAll_survives hs hw ⟨rfl, rfl, rfl⟩ (.refl _ _) hw.neat hdone.subset⟩

theorem run_survives {errand : Errand} (hb : errand.sweep.backend = Store.backend p)
    (hw : t.backend.WellFormed) : (errand.run t).backend.WellFormed ∧
      Survives (fun c category => c = errand.sweep ∧ errand.Covers category) t.backend
        (errand.run t).backend := by
  cases errand with
  | one c category =>
    obtain ⟨hw', hleft⟩ := sweepCategory_survives hb hw category
    refine ⟨hw', hleft.mono ?_⟩
    rintro _ _ ⟨rfl, hwet, rfl⟩
    exact ⟨rfl, hwet, rfl⟩
  | all c =>
    refine sweepAll_preserves (P := fun _ b => b.WellFormed ∧ Survives (fun c' category =>
      c' = c ∧ (Errand.all c).Covers category) t.backend b) (fun step hstep t' h => ?_)
      ⟨hw, .refl _ _⟩
    obtain ⟨hw', hleft⟩ := sweepCategory_survives hb h.1 step.category
    refine ⟨hw', h.2.trans (hleft.mono ?_)⟩
    rintro _ _ ⟨rfl, hwet, rfl⟩
    exact ⟨rfl, hwet, step, hstep, rfl⟩

theorem runAll_survives {errands : List Errand}
    (hb : ∀ errand ∈ errands, ∃ p, errand.sweep.backend = Store.backend p)
    (hw : t.backend.WellFormed) :
    Survives (fun c category => ∃ errand ∈ errands, c = errand.sweep ∧ errand.Covers category)
      t.backend (Errand.runAll errands t).backend := by
  induction errands generalizing t with
  | nil => exact .refl _ _
  | cons errand errands ih =>
    obtain ⟨⟨p, hfirst⟩, hrest⟩ := List.forall_mem_cons.1 hb
    obtain ⟨hw', hleft⟩ := run_survives hfirst hw
    refine (hleft.mono ?_).trans ((ih hrest hw').mono ?_)
    · rintro c category ⟨hc, hcovers⟩
      exact ⟨errand, List.mem_cons_self, hc, hcovers⟩
    · rintro c category ⟨errand', hmem, hc, hcovers⟩
      exact ⟨errand', List.mem_cons_of_mem _ hmem, hc, hcovers⟩

/-- Whatever cleanups are run on a store that was filled, one after another, every object that is
left was there under the same key, with the same id, type, name, path and tags, and with no other
field than it had.  It has lost fields only if one of the cleanups, not being a dry run, owned it
and took it off its router, if it is a segment with a path to one, or off DHCP, if it is a logical
port that serves it; and then just the fields that say so. -/
theorem survivors_untouched (errands : List Errand) (t : Trace Store)
    (hb : ∀ errand ∈ errands, ∃ p, errand.sweep.backend = Store.backend p)
    (hfilled : t.backend.Filled) :
    ∀ k r', (Errand.runAll errands t).backend.find? k = some r' →
      ∃ r, t.backend.find? k = some r ∧ r'.TrimOf r ∧
        (r' = r ∨ ∃ errand ∈ errands, ∃ category, errand.Covers category ∧
          errand.sweep.Owned category t.backend k r ∧
          (k.kind = .segment ∧ (r.field "connectivity_path").isSome = true ∧
              r' = r.without ["connectivity_path", "subnets"] ∨
            k.kind = .logicalPort ∧ r.attachmentType = some "DHCP_SERVICE" ∧
              r' = r.without ["attachment"])) := by
  intro k r' hr'
  obtain ⟨r, hr, hsame | ⟨⟨c, category, ⟨errand, hmem, rfl, hcovers⟩, hdetached⟩, hless⟩⟩ :=
    runAll_survives hb hfilled.wellFormed k r' hr'
  · exact ⟨r, hr, hsame ▸ .refl r', .inl hsame⟩
  · refine ⟨r, hr, hless ▸ r.without_trimOf _, .inr ⟨errand, hmem, category, hcovers,
      hdetached.1, ?_⟩⟩
    rcases hdetached.2 with ⟨-, hkind, hpath⟩ | ⟨-, hkind, htype⟩
    · exact .inl ⟨hkind, hpath, by rw [hless, hkind]; rfl⟩
    · exact .inr ⟨hkind, htype, by rw [hless, hkind]; rfl⟩

def routed : Resource :=
  (((Resource.owned "net").withField "connectivity_path" (.string "/infra/tier-1s/ours")).withField
    "subnets" (.array [])).withField "description" (.string "ours")

def routedStore : Store :=
  let segment : Address := { kind := .segment, parents := [], id := "net" }
  { Store.empty with objects := [(segment, complete segment routed)] }

theorem routedStore_filled : routedStore.Filled :=
  Filled.empty.insertAll [(.segment, [], routed)] (by decide) rfl

/-- The segment survives a cleanup of segment interfaces off its router, with its description. -/
theorem routed_segment_survives :
    let c := standard (Store.backend false) none .default
    let errands : List Errand := [.one c .segmentInterfaces]
    let k : Address := { kind := .segment, parents := [], id := "net" }
    let r' : Resource :=
      { complete k routed with extra := [("description", .string "ours")] }
    (Errand.runAll errands (.start routedStore)).backend.find? k = some r' ∧
      ∃ r, routedStore.find? k = some r ∧ r'.TrimOf r ∧
        (r' = r ∨ ∃ errand ∈ errands, ∃ category, errand.Covers category ∧
          errand.sweep.Owned category routedStore k r ∧
          (k.kind = .segment ∧ (r.field "connectivity_path").isSome = true ∧
              r' = r.without ["connectivity_path", "subnets"] ∨
            k.kind = .logicalPort ∧ r.attachmentType = some "DHCP_SERVICE" ∧
              r' = r.without ["attachment"])) := by
  intro c errands k r'
  have hleft : (Errand.runAll errands (.start routedStore)).backend.find? k = some r' := by
    decide +kernel
  refine ⟨hleft, survivors_untouched errands (.start routedStore) (fun errand h => ?_)
    routedStore_filled k r' hleft⟩
  rw [List.mem_singleton.1 h]
  exact ⟨false, rfl⟩

end Sweep

end NetSweep
