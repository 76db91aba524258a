import NetSweep.Proofs.GrantedDeletes
import NetSweep.Proofs.LeavesFirst
import NetSweep.Proofs.OwnershipSafety

/-!
# Segments go away with everything in them

What lies in an owned segment is deleted from the inside out, over two categories: static bindings
and router interfaces in the first one, port bindings, ports and the segment itself in the second.
Other changes come before, between and after, but none of them brings an object back or puts one in
the way of another.
-/

namespace NetSweep

open Cleanup Store Change

/-! ## Inside segments and routers -/

theorem Kind.childless_portBinding {kind : Kind} (h : kind ∈ portBindings) (j : Kind) :
    j.parent? ≠ some kind := by
  revert h
  cases kind <;> cases j <;> decide

theorem Kind.childless_staticBinding (j : Kind) : j.parent? ≠ some segmentDhcpStaticBinding := by
  cases j <;> decide

theorem Kind.childless_interface (j : Kind) : j.parent? ≠ some tier1SegmentInterface := by
  cases j <;> decide

theorem Kind.inside_segment {kind : Kind} (h : kind.parent? = some segment) :
    kind = segmentDhcpStaticBinding ∨ kind = segmentPort := by
  revert h
  cases kind <;> decide

theorem Kind.inside_segmentPort {kind : Kind} (h : kind.parent? = some segmentPort) :
    kind ∈ portBindings := by
  revert h
  cases kind <;> decide

namespace Address

variable {outer inner segment port router a : Address}

theorem not_encloses_of_childless (h : ∀ kind : Kind, kind.parent? ≠ some outer.kind) :
    ¬ outer.Encloses inner := by
  intro hinside
  obtain ⟨first, hcontains, -⟩ := Relation.TransGen.head'_iff.1 hinside
  exact h _ (kind_of_contains hcontains)

/-- Only bindings lie in a port, and nothing lies in them. -/
theorem Encloses.inside_port (h : port.Encloses a) (hkind : port.kind = .segmentPort) :
    port.contains a = true ∧ a.kind ∈ Kind.portBindings := by
  obtain ⟨first, hfirst, hrest⟩ := Relation.TransGen.head'_iff.1 h
  have hbinding := Kind.inside_segmentPort (hkind ▸ kind_of_contains hfirst)
  rcases Relation.reflTransGen_iff_eq_or_transGen.1 hrest with rfl | hdeeper
  · exact ⟨hfirst, hbinding⟩
  · exact absurd hdeeper (not_encloses_of_childless (Kind.childless_portBinding hbinding))

/-- In a segment lie static bindings, ports and what lies in these. -/
theorem Encloses.inside_segment (h : segment.Encloses a) (hkind : segment.kind = .segment) :
    segment.contains a = true ∧ a.kind = .segmentDhcpStaticBinding ∨
      segment.contains a = true ∧ a.kind = .segmentPort ∨
      ∃ port, segment.contains port = true ∧ port.kind = .segmentPort ∧ port.Encloses a := by
  obtain ⟨first, hfirst, hrest⟩ := Relation.TransGen.head'_iff.1 h
  rcases Kind.inside_segment (hkind ▸ kind_of_contains hfirst) with hbinding | hport
  · rcases Relation.reflTransGen_iff_eq_or_transGen.1 hrest with rfl | hdeeper
    · exact .inl ⟨hfirst, hbinding⟩
    · refine absurd hdeeper (not_encloses_of_childless ?_)
      rw [hbinding]
      exact Kind.childless_staticBinding
  · rcases Relation.reflTransGen_iff_eq_or_transGen.1 hrest with rfl | hdeeper
    · exact .inr (.inl ⟨hfirst, hport⟩)
    · exact .inr (.inr ⟨first, hfirst, hport, hdeeper⟩)

theorem Encloses.not_interface (h : segment.Encloses a) (hkind : segment.kind = .segment) :
    a.kind ≠ .tier1SegmentInterface := by
  rcases h.inside_segment hkind with ⟨-, ha⟩ | ⟨-, ha⟩ | ⟨port, -, hport, ha⟩
  · simp [ha]
  · simp [ha]
  · have hbinding := (ha.inside_port hport).2
    rintro ha
    rw [ha] at hbinding
    exact absurd hbinding (by decide)

/-- An interface of a router lies in one of its locale services. -/
theorem Encloses.inside_router (h : router.Encloses a) (hkind : router.kind = .tier1)
    (ha : a.kind = .tier1SegmentInterface) : ∃ service, router.contains service = true ∧
      service.kind = .tier1LocaleService ∧ service.contains a = true := by
  obtain ⟨service, hrest, hlast⟩ := Relation.TransGen.tail'_iff.1 h
  have hservice : service.kind = .tier1LocaleService := by
    have hparent := kind_of_contains hlast
    rw [ha] at hparent
    exact (Option.some.inj hparent).symm
  rcases Relation.reflTransGen_iff_eq_or_transGen.1 hrest with rfl | hdeeper
  · rw [hservice] at hkind
    cases hkind
  · obtain ⟨outer, hrest, hcontains⟩ := Relation.TransGen.tail'_iff.1 hdeeper
    rcases Relation.reflTransGen_iff_eq_or_transGen.1 hrest with rfl | hdeeper
    · exact ⟨service, hcontains, hservice, hlast⟩
    · -- the service would lie in something that lies in the router
      have houter : outer.kind = .tier1 := by
        have hparent := kind_of_contains hcontains
        rw [hservice] at hparent
        exact (Option.some.inj hparent).symm
      obtain ⟨around, -, haround⟩ := Relation.TransGen.tail'_iff.1 hdeeper
      have hparent := kind_of_contains haround
      rw [houter] at hparent
      cases hparent

end Address

/-! ## What changes clear away -/

namespace Store

variable {altered : List Kind} {domain : String} {p : Bool} {base : Store} {c : Change}
  {cs cs' : List Change} {a k : Address}

/-- Whatever is left of the store when the changes begin, nothing is left of the object when they
are done. -/
def Clears (altered : List Kind) (p : Bool) (base : Store) (cs : List Change) (k : Address) : Prop :=
  ∀ t : Store, Thinned altered base t → t.failures = base.failures →
    (applyAll p cs t).find? k = none

namespace Clears

theorem of_gone (hk : base.find? k = none) : Clears altered p base cs k :=
  fun _ hthin _ => find?_applyAll_none (hthin.find?_none hk)

theorem append_left (h : Clears altered p base cs k) : Clears altered p base (cs ++ cs') k := by
  intro t hthin hsame
  rw [applyAll_append]
  exact find?_applyAll_none (h t hthin hsame)

variable (hw : base.WellFormed)

include hw

theorem append_right (hmild : ∀ c ∈ cs, c.Mild altered domain) (h : Clears altered p base cs' k) :
    Clears altered p base (cs ++ cs') k := by
  intro t hthin hsame
  rw [applyAll_append]
  exact h _ (hthin.applyAll hw hmild) ((failures_applyAll p cs t).trans hsame)

theorem flatMap {α : Type} {l : List α} {f : α → List Change}
    (hmild : ∀ c ∈ l.flatMap f, c.Mild altered domain) {x : α} (hx : x ∈ l)
    (h : Clears altered p base (f x) k) : Clears altered p base (l.flatMap f) k := by
  obtain ⟨before, after, rfl⟩ := List.append_of_mem hx
  rw [List.flatMap_append, List.flatMap_cons] at hmild ⊢
  exact .append_right hw (fun c hc => hmild c (List.mem_append_left _ hc)) h.append_left

variable (hfail : base.deleteFailures = [])

include hfail

/-- An object goes last if what is in its way has been cleared away. -/
theorem last (hmild : ∀ c ∈ cs, c.Mild altered domain)
    (hreach : requireAccess p c.target.kind c.target.parents = .ok ()) (hfirm : c.firm? = some k)
    (h : ∀ a, base.Obstructs a k → Clears altered p base cs a) :
    Clears altered p base (cs ++ [c]) k := by
  intro t hthin hsame
  rw [applyAll_append]
  have hthin' : Thinned altered base (applyAll p cs t) := hthin.applyAll hw hmild
  have hfail' : (applyAll p cs t).deleteFailures = [] :=
    (congrArg Prod.fst ((failures_applyAll p cs t).trans hsame)).trans hfail
  have hfree : ∀ k', c.firm? = some k' → ∀ a, ¬ (applyAll p cs t).Obstructs a k' := by
    intro k' hk' a hobs
    obtain rfl := Option.some.inj (hfirm.symm.trans hk')
    exact hobs.2.1 (h a (hthin'.obstructs hobs) t hthin hsame)
  exact (change_unobstructed (hthin'.wellFormed hw) hfail' hreach hfree).2 k hfirm

/-- An object that nothing is in the way of goes at any time. -/
theorem of_free (hmild : ∀ c ∈ cs, c.Mild altered domain)
    (hreach : ∀ c ∈ cs, requireAccess p c.target.kind c.target.parents = .ok ())
    (hk : Fells cs k) (h : ∀ a, ¬ base.Obstructs a k) : Clears altered p base cs k := by
  obtain ⟨c, hc, hfirm⟩ := hk
  obtain ⟨before, after, rfl⟩ := List.append_of_mem hc
  have hbefore : ∀ c ∈ before, c.Mild altered domain :=
    fun c hc => hmild c (List.mem_append_left _ hc)
  rw [List.append_cons]
  exact (last hw hfail hbefore (hreach c hc) hfirm fun a hobs => absurd hobs (h a)).append_left

end Clears

end Store

namespace Cleanup.Setting

variable {s : Setting Store} {p : Bool} {b : Store} {altered : List Kind} {domain : String}
  {segment port o : Address}

/-! ## What the removal of a segment clears away -/

section

variable (hs : s.OnStore p) (hw : b.WellFormed) (hfail : b.deleteFailures = [])
  (hlists : b.listFailures = [])

include hs hw hfail hlists

/-- Where only what lies in a port is in its way or in the way of that, its removal clears away all
of it. -/
theorem clears_portRemoval (hkind : port.kind = .segmentPort) (hparents : port.parents = [segment.id])
    (hmild : ∀ c ∈ s.portRemoval b segment.id port.id, c.Mild altered domain)
    (hreach : ∀ c ∈ s.portRemoval b segment.id port.id,
      requireAccess p c.target.kind c.target.parents = .ok ())
    (hclosed : ∀ o a, o = port ∨ port.Encloses o → b.Obstructs a o → o.Encloses a)
    (ho : o = port ∨ port.Encloses o) :
    Clears altered p b (s.portRemoval b segment.id port.id) o := by
  rw [portRemoval] at hmild hreach ⊢
  have hbinding : ∀ a, port.Encloses a → Clears altered p b
      (Kind.portBindings.flatMap fun kind => s.emptying kind [segment.id, port.id] b) a := by
    intro a ha
    obtain ⟨hcontains, hbinding⟩ := ha.inside_port hkind
    cases hr : b.find? a with
    | none => exact .of_gone hr
    | some r =>
      have hdelete : .delete .auxiliary a ∈ s.emptying a.kind a.parents b :=
        hs.delete_mem_emptying hw hlists
          (requireAccess_of_policy (Kind.portBindings_spec _ hbinding).1 (hw.fits hr).depth)
          (by simp [hr])
      rw [Address.parents_of_contains hcontains, hparents] at hdelete
      refine .of_free hw hfail (fun c hc => hmild c (List.mem_append_left _ hc))
        (fun c hc => hreach c (List.mem_append_left _ hc))
        ⟨_, List.mem_flatMap.2 ⟨_, hbinding, hdelete⟩, rfl⟩ fun a' hobs => ?_
      exact Address.not_encloses_of_childless (Kind.childless_portBinding hbinding)
        (hclosed a a' (.inr ha) hobs)
  have hself : { kind := .segmentPort, parents := [segment.id], id := port.id } = port := by
    rw [← hparents, ← hkind]
  rcases ho with rfl | hinside
  · refine .last hw hfail (fun c hc => hmild c (List.mem_append_left _ hc))
      (hreach _ (List.mem_append_right _ (List.mem_singleton_self _))) (congrArg some hself)
      fun a hobs => hbinding a (hclosed _ a (.inl rfl) hobs)
  · exact (hbinding o hinside).append_left

/-- The same for a segment whose ports are listed as owned, when its static bindings are gone. -/
theorem clears_segmentRemoval (hhoused : b.Housed) (hkind : segment.kind = .segment)
    (hparents : segment.parents = [])
    (hports : ∀ port, segment.contains port = true → port.kind = .segmentPort →
      b.find? port ≠ none → ∃ r ∈ s.seenOwned .segmentPort [segment.id]
        [.id .ports, .id .portMappings] b, r.id = port.id)
    (hbindings : ∀ k, segment.contains k = true → k.kind = .segmentDhcpStaticBinding →
      b.find? k = none)
    (hmild : ∀ c ∈ s.segmentRemoval b segment.id, c.Mild altered domain)
    (hreach : ∀ c ∈ s.segmentRemoval b segment.id,
      requireAccess p c.target.kind c.target.parents = .ok ())
    (hclosed : ∀ o a, o = segment ∨ segment.Encloses o → b.Obstructs a o → o.Encloses a)
    (ho : o = segment ∨ segment.Encloses o) :
    Clears altered p b (s.segmentRemoval b segment.id) o := by
  rw [segmentRemoval] at hmild hreach ⊢
  have hmildports := fun c hc => hmild c (List.mem_append_left _ hc)
  have hport : ∀ port, segment.contains port = true → port.kind = .segmentPort →
      ∀ o, o = port ∨ port.Encloses o → Clears altered p b (s.portsRemoval b segment.id) o := by
    intro port hcontains hport o ho
    cases hr : b.find? o with
    | none => exact .of_gone hr
    | some r =>
      have hstored : b.find? port ≠ none := by
        rcases ho with rfl | hinside
        · simp [hr]
        · exact hhoused.encloser_stored hinside (by simp [hr])
      obtain ⟨r, hmem, hid⟩ := hports port hcontains hport hstored
      have hsub : s.portRemoval b segment.id port.id ⊆ s.portsRemoval b segment.id :=
        fun c hc => List.mem_flatMap.2 ⟨r, hmem, by rwa [hid]⟩
      refine .flatMap hw hmildports hmem ?_
      rw [hid]
      refine clears_portRemoval hs hw hfail hlists hport ?_ (fun c hc => hmildports c (hsub hc))
        (fun c hc => hreach c (List.mem_append_left _ (hsub hc)))
        (fun o a ho => hclosed o a (.inr ?_)) ho
      · rw [Address.parents_of_contains hcontains, hparents, List.nil_append]
      · rcases ho with rfl | hinside
        · exact .single hcontains
        · exact .head hcontains hinside
  have hinside : ∀ a, segment.Encloses a → Clears altered p b (s.portsRemoval b segment.id) a := by
    intro a ha
    rcases ha.inside_segment hkind with
      ⟨hcontains, hbinding⟩ | ⟨hcontains, hp⟩ | ⟨port, hcontains, hp, ha⟩
    · exact .of_gone (hbindings a hcontains hbinding)
    · exact hport a hcontains hp a (.inl rfl)
    · exact hport port hcontains hp a (.inr ha)
  have hself : { kind := .segment, parents := [], id := segment.id } = segment := by
    rw [← hparents, ← hkind]
  rcases ho with rfl | ho
  · rw [← List.append_assoc] at hmild hreach ⊢
    exact .last hw hfail (fun c hc => hmild c (List.mem_append_left _ hc))
      (hreach _ (List.mem_append_right _ (List.mem_singleton_self _))) (congrArg some hself)
      fun a hobs => (hinside a (hclosed _ a (.inl rfl) hobs)).append_left
  · exact (hinside o ho).append_left

end

end Cleanup.Setting

namespace Sweep

variable {c : Sweep Store} {p : Bool} {category other : Category} {base b : Store}
  {altered : List Kind} {segment a k : Address} {r : Resource}

/-! ## Segments that can be removed whole -/

/-- An interface of an owned router that nobody refers to. -/
def Unplugs (c : Sweep Store) (base : Store) (a : Address) : Prop :=
  a.kind = .tier1SegmentInterface ∧
    (∃ router r, router.kind = .tier1 ∧ c.Owned .segmentInterfaces base router r ∧
      router.Encloses a) ∧
    ∀ b, b ≠ a → ¬ base.Refers b a

/-- An owned segment with owned ports.  Whoever refers to it or to something in it lies there as
well, except that interfaces of owned routers may refer to the segment. -/
structure Whole (c : Sweep Store) (base : Store) (segment : Address) : Prop where
  kind : segment.kind = .segment
  owned : ∃ r, c.Owned .segments base segment r
  ports : ∀ port, segment.contains port = true → port.kind = .segmentPort →
    base.find? port ≠ none → ∃ r, c.Owned .segments base port r
  closed : ∀ o a, o = segment ∨ segment.Encloses o → a ≠ o → base.Refers a o →
    o.Encloses a ∨ o = segment ∧ c.Unplugs base a

theorem Owned.owns (h : c.Owned category base k r) {rules : List Narrowing}
    (hrules : category.rules? k.kind = some rules) (hne : rules ≠ []) :
    (c.setting other).owns rules r = true := by
  obtain ⟨-, hmarked, rules', hrules', hfinds⟩ := h
  obtain rfl := Option.some.inj (hrules.symm.trans hrules')
  refine Bool.and_eq_true_iff.2 ⟨hmarked, ?_⟩
  show withinAuthority c.authority rules r = true
  cases hauthority : c.authority with
  | none => rfl
  | some knows =>
    obtain ⟨rule, hrule, hfound⟩ := hfinds knows hauthority hne
    exact Bool.or_eq_true_iff.2 (.inr (List.any_eq_true.2 ⟨rule, hrule, hfound⟩))

/-- What is owned is listed as owned, in any category that lists it by the same rules. -/
theorem Owned.listed (h : c.Owned category base k r) (hs : (c.setting other).OnStore p)
    (hw : base.WellFormed) (hlists : base.listFailures = []) {rules : List Narrowing}
    (hrules : category.rules? k.kind = some rules) (hne : rules ≠ [])
    (hapi : k.kind.api = .policy) :
    r ∈ (c.setting other).seenOwned k.kind k.parents rules base ∧ r.id = k.id :=
  hs.mem_seenOwned_of_found hw hlists (requireAccess_of_policy hapi (hw.fits h.1).depth) h.1
    (h.owns hrules hne)

/-- Segments and their ports are still owned when they have been trimmed. -/
theorem Owned.trimmed (h : c.Owned .segments base k r) (hthin : Thinned altered base b)
    (hk : b.find? k ≠ none) : ∃ r', c.Owned .segments b k r' := by
  obtain ⟨hr, hmarked, rules, hrules, hfinds⟩ := h
  obtain ⟨r', hr'⟩ := Option.ne_none_iff_exists'.1 hk
  obtain ⟨r₀, hr₀, htrim, -⟩ := hthin.found hr'
  obtain rfl := Option.some.inj (hr.symm.trans hr₀)
  have hbyid : ∀ rule ∈ rules, ∃ model, rule = .id model := by
    revert hrules
    cases k.kind <;> rintro ⟨⟩ <;> simp
  refine ⟨r', hr', (htrim.hasTag _).trans hmarked, rules, hrules, fun knows hknows hne => ?_⟩
  obtain ⟨rule, hrule, hfound⟩ := hfinds knows hknows hne
  obtain ⟨model, rfl⟩ := hbyid rule hrule
  refine ⟨_, hrule, ?_⟩
  rwa [Narrowing.finds, htrim.id]

section

variable (hs : (c.setting .segmentInterfaces).OnStore p) (hw : base.WellFormed)
  (hfail : base.deleteFailures = []) (hlists : base.listFailures = [])

include hs hw hfail hlists

/-! ## What the first category clears away -/

theorem Whole.clears_staticBinding (h : c.Whole base segment) (hin : segment.contains k = true)
    (hkind : k.kind = .segmentDhcpStaticBinding) : Clears Category.segmentInterfaces.altered p base
      ((c.setting .segmentInterfaces).changes .segmentInterfaces base) k := by
  have hempty : ∀ {a}, ¬ k.Encloses a :=
    Address.not_encloses_of_childless (hkind ▸ Kind.childless_staticBinding)
  cases hrk : base.find? k with
  | none => exact .of_gone hrk
  | some rk =>
    obtain ⟨rs, howned⟩ := h.owned
    obtain ⟨hsegment, hid⟩ := howned.listed hs hw hlists (by rw [h.kind]; rfl)
      (List.cons_ne_nil _ _) (by rw [h.kind]; rfl)
    have hparents := (hw.fits howned.1).parents_eq_nil h.kind rfl
    rw [h.kind, hparents] at hsegment
    have hdelete := hs.delete_mem_emptying hw hlists
      (requireAccess_of_policy (by rw [hkind]; rfl) (hw.fits hrk).depth) (by simp [hrk])
    rw [hkind, Address.parents_of_contains hin, hparents, ← hid] at hdelete
    have hmem : .delete .auxiliary k ∈
        (c.setting .segmentInterfaces).changes .segmentInterfaces base :=
      List.mem_append_left _ (List.mem_flatMap.2 ⟨rs, hsegment, List.mem_append_left _ hdelete⟩)
    obtain ⟨hmild, hreach, -⟩ := hs.sweep hw .segmentInterfaces
    refine .of_free hw hfail hmild hreach ⟨_, hmem, rfl⟩ ?_
    rintro a ⟨hne, -, hinside | hrefers⟩
    · exact hempty (.single hinside)
    · rcases h.closed k a (.inr (.single hin)) hne hrefers with hinside | ⟨rfl, -⟩
      · exact hempty hinside
      · rw [h.kind] at hkind
        cases hkind

theorem Unplugs.clears (h : c.Unplugs base a) (hhoused : base.Housed) :
    Clears Category.segmentInterfaces.altered p base
      ((c.setting .segmentInterfaces).changes .segmentInterfaces base) a := by
  obtain ⟨hkind, ⟨router, rr, hrouter, howned, hinside⟩, hunused⟩ := h
  cases hra : base.find? a with
  | none => exact .of_gone hra
  | some ra =>
    obtain ⟨service, hcontains, hservice, hcontains'⟩ := hinside.inside_router hrouter hkind
    obtain ⟨rs, hrs⟩ := Option.ne_none_iff_exists'.1
      (hhoused.container_stored (by simp [hra]) hcontains')
    have hparents := (hw.fits howned.1).parents_eq_nil hrouter rfl
    obtain ⟨hmemr, hidr⟩ := howned.listed hs hw hlists (by rw [hrouter]; rfl)
      (List.cons_ne_nil _ _) (by rw [hrouter]; rfl)
    obtain ⟨hmems, hids⟩ := hs.mem_seen_of_found hw hlists
      (requireAccess_of_policy (by rw [hservice]; rfl) (hw.fits hrs).depth) hrs
    obtain ⟨hmema, hida⟩ := hs.mem_seen_of_found hw hlists
      (requireAccess_of_policy (by rw [hkind]; rfl) (hw.fits hra).depth) hra
    have hplaces : service.parents = [rr.id] := by
      rw [Address.parents_of_contains hcontains, hparents, hidr, List.nil_append]
    have hplacea : a.parents = [rr.id, rs.id] := by
      rw [Address.parents_of_contains hcontains', hplaces, hids]
      rfl
    rw [hrouter, hparents] at hmemr
    rw [hservice, hplaces] at hmems
    rw [hkind, hplacea] at hmema
    have hself : a = { kind := .tier1SegmentInterface, parents := [rr.id, rs.id], id := ra.id } := by
      rw [hida, ← hplacea, ← hkind]
    have hmem : .delete .owned a ∈ (c.setting .segmentInterfaces).changes .segmentInterfaces base :=
      List.mem_append_right _ (List.mem_flatMap.2 ⟨rr, hmemr,
        Setting.mem_unplugging.2 ⟨rs, hmems, ra, hmema, congrArg _ hself⟩⟩)
    obtain ⟨hmild, hreach, -⟩ := hs.sweep hw .segmentInterfaces
    refine .of_free hw hfail hmild hreach ⟨_, hmem, rfl⟩ ?_
    rintro b ⟨hne, -, hinside | hrefers⟩
    · exact Address.not_encloses_of_childless (hkind ▸ Kind.childless_interface) (.single hinside)
    · exact hunused b hne hrefers

end

/-! ## Both categories -/

/-- Once the interfaces are gone, only what lies in the segment's objects is in their way. -/
theorem Whole.closed_inside (h : c.Whole base segment) (hthin : Thinned altered base b)
    (hgone : ∀ a, base.Refers a segment → c.Unplugs base a → b.find? a = none) {o : Address}
    (ho : o = segment ∨ segment.Encloses o) (hobs : b.Obstructs a o) : o.Encloses a := by
  obtain ⟨hne, -, hinside | hrefers⟩ := hthin.obstructs hobs
  · exact .single hinside
  · rcases h.closed o a ho hne hrefers with hinside | ⟨rfl, hunplugs⟩
    · exact hinside
    · exact absurd (hgone a hrefers hunplugs) hobs.2.1

/-- The second category clears away the segment and what lies in it. -/
theorem Whole.clears_segment (h : c.Whole base segment) (hs : (c.setting .segments).OnStore p)
    (hw : base.WellFormed) (hthin : Thinned altered base b) (hhoused : b.Housed)
    (hfail : b.deleteFailures = []) (hlists : b.listFailures = [])
    (hbindings : ∀ k, segment.contains k = true → k.kind = .segmentDhcpStaticBinding →
      b.find? k = none)
    (hgone : ∀ a, base.Refers a segment → c.Unplugs base a → b.find? a = none) {o : Address}
    (ho : o = segment ∨ segment.Encloses o) :
    Clears Category.segments.altered p b ((c.setting .segments).changes .segments b) o := by
  have hwb := hthin.wellFormed hw
  obtain ⟨hmild, hreach, -⟩ := hs.sweep hwb .segments
  cases hro : b.find? o with
  | none => exact .of_gone hro
  | some ro =>
    obtain ⟨r₀, howned₀⟩ := h.owned
    have hparents := (hw.fits howned₀.1).parents_eq_nil h.kind rfl
    have hsegment : b.find? segment ≠ none := by
      rcases ho with rfl | hinside
      · simp [hro]
      · exact hhoused.encloser_stored hinside (by simp [hro])
    obtain ⟨r, howned⟩ := howned₀.trimmed hthin hsegment
    obtain ⟨hmem, hid⟩ := howned.listed hs hwb hlists (by rw [h.kind]; rfl)
      (List.cons_ne_nil _ _) (by rw [h.kind]; rfl)
    rw [h.kind, hparents] at hmem
    have hsub : (c.setting .segments).segmentRemoval b segment.id ⊆
        (c.setting .segments).changes .segments b :=
      fun ch hch => List.mem_flatMap.2 ⟨r, hmem, by rwa [hid]⟩
    refine .flatMap hwb hmild hmem ?_
    rw [hid]
    refine Setting.clears_segmentRemoval hs hwb hfail hlists hhoused h.kind hparents
      (fun port hcontains hport hstored => ?_) hbindings (fun ch hch => hmild ch (hsub hch))
      (fun ch hch => hreach ch (hsub hch)) (fun o a ho => h.closed_inside hthin hgone ho) ho
    obtain ⟨rp₀, hownedp₀⟩ := h.ports port hcontains hport fun hnone =>
      hstored (hthin.find?_none hnone)
    obtain ⟨rp, hownedp⟩ := hownedp₀.trimmed hthin hstored
    obtain ⟨hmemp, hidp⟩ := hownedp.listed hs hwb hlists (by rw [hport]; rfl)
      (List.cons_ne_nil _ _) (by rw [hport]; rfl)
    rw [hport, Address.parents_of_contains hcontains, hparents] at hmemp
    exact ⟨rp, hmemp, hidp⟩

/-- Owned segments go away with everything in them.  After the two categories a whole segment and all
that lies in it is gone, and no delete of the segment, of its ports and of the interfaces that refer
to it has been refused, whatever else is stored. -/
theorem whole_segments_removed (p : Bool) (authority : Option Knowledge) (config : Config)
    (hwet : config.dryRun = false)
    (hisolate : ∀ category ∈ [Category.segmentInterfaces, .segments],
      config.policies.of category = .isolate) {t : Trace Store} (hfilled : t.backend.Filled)
    (hhoused : t.backend.Housed) (hfail : t.backend.deleteFailures = [])
    (hlists : t.backend.listFailures = []) {segment : Address} :
    let c := standard (Store.backend p) authority config
    c.Whole t.backend segment →
      ∃ report₁ t₁ report₂ t₂, c.sweepCategory .segmentInterfaces t = (.ok report₁, t₁) ∧
        c.sweepCategory .segments t₁ = (.ok report₂, t₂) ∧
        (∀ o, o = segment ∨ segment.Encloses o → t₂.backend.find? o = none) ∧
        ∀ role target answer,
          .deletion role target (some answer) ∈ t₂.journal.drop t.journal.length →
          target = segment ∨ segment.contains target = true ∧ target.kind = .segmentPort ∨
            target.kind = .tier1SegmentInterface ∧ t.backend.Refers target segment →
          answer = .ok () := by
  intro c h
  have hw := hfilled.wellFormed
  have hs₁ : (c.setting .segmentInterfaces).OnStore p := onStore rfl hwet
  have hs₂ : (c.setting .segments).OnStore p := onStore rfl hwet
  obtain ⟨report₁, t₁, hrun₁⟩ :=
    sweepCategory_calm hs₁ hw hlists (.inl (hisolate _ List.mem_cons_self))
  have hback₁ := (sweepCategory_of_ok hs₁ hw hrun₁).1
  obtain ⟨hthin₁, hsame₁⟩ := sweepCategory_thins hs₁ hw hrun₁
  have hw₁ := hthin₁.wellFormed hw
  have hhoused₁ : t₁.backend.Housed := by
    rw [hback₁]
    exact hhoused.applyAll
  have hfail₁ : t₁.backend.deleteFailures = [] := (congrArg (·.1) hsame₁).trans hfail
  have hlists₁ : t₁.backend.listFailures = [] := (congrArg (·.2.2) hsame₁).trans hlists
  have hcleared₁ : ∀ k, Clears Category.segmentInterfaces.altered p t.backend
      ((c.setting .segmentInterfaces).changes .segmentInterfaces t.backend) k →
        t₁.backend.find? k = none := by
    intro k hclears
    rw [hback₁]
    exact hclears _ (.refl hw) rfl
  have hinterfaces : ∀ a, c.Unplugs t.backend a → t₁.backend.find? a = none := fun a ha =>
    hcleared₁ a (ha.clears hs₁ hw hfail hlists hhoused)
  obtain ⟨report₂, t₂, hrun₂⟩ := sweepCategory_calm hs₂ hw₁ hlists₁
    (.inl (hisolate _ (List.mem_cons_of_mem _ List.mem_cons_self)))
  have hgone : ∀ o, o = segment ∨ segment.Encloses o → t₂.backend.find? o = none := by
    intro o ho
    rw [(sweepCategory_of_ok hs₂ hw₁ hrun₂).1]
    refine h.clears_segment hs₂ hw hthin₁ hhoused₁ hfail₁ hlists₁ (fun k hin hkind => ?_)
      (fun a _ ha => hinterfaces a ha) ho _ (.refl hw₁) rfl
    exact hcleared₁ k (h.clears_staticBinding hs₁ hw hfail hlists hin hkind)
  refine ⟨report₁, t₁, report₂, t₂, hrun₁, hrun₂, hgone, fun role target answer hmem htarget => ?_⟩
  have hjournal : t₂.journal.drop t.journal.length =
      c.eventsOf .segmentInterfaces t ++ c.eventsOf .segments t₁ := by
    rw [(sweepCategory_events hs₂ hw₁ hrun₂).1, (sweepCategory_events hs₁ hw hrun₁).1,
      List.append_assoc, List.drop_left]
  rw [hjournal] at hmem
  rcases List.mem_append.1 hmem with hmem | hmem
  · -- the first category deletes neither the segment nor its ports
    have hkind := (deletes_of_event hs₁ hw hrun₁ hmem).1
    rcases htarget with rfl | ⟨-, hport⟩ | ⟨hinterface, hrefers⟩
    · rw [h.kind] at hkind
      exact absurd hkind (by decide)
    · rw [hport] at hkind
      exact absurd hkind (by decide)
    · refine granted_of_gone hs₁ hw hrun₁ (by rw [hinterface]; decide) ?_ hmem
      have hne : target ≠ segment := by
        rintro rfl
        rw [h.kind] at hinterface
        cases hinterface
      rcases h.closed segment target (.inl rfl) hne hrefers with hinside | ⟨-, hunplugs⟩
      · exact absurd hinterface (hinside.not_interface h.kind)
      · exact hinterfaces target hunplugs
  · have hkind := (deletes_of_event hs₂ hw₁ hrun₂ hmem).1
    rcases htarget with rfl | ⟨hcontains, hport⟩ | ⟨hinterface, -⟩
    · exact granted_of_gone hs₂ hw₁ hrun₂ (by rw [h.kind]; decide) (hgone _ (.inl rfl)) hmem
    · exact granted_of_gone hs₂ hw₁ hrun₂ (by rw [hport]; decide) (hgone _ (.inr (.single hcontains)))
        hmem
    · rw [hinterface] at hkind
      exact absurd hkind (by decide)

def plugged : Store :=
  let router : Address := { kind := .tier1, parents := [], id := "ours" }
  let service : Address := { kind := .tier1LocaleService, parents := ["ours"], id := "edge" }
  let plug : Address := { kind := .tier1SegmentInterface, parents := ["ours", "edge"], id := "plug" }
  let segment : Address := { kind := .segment, parents := [], id := "net" }
  let fixed : Address := { kind := .segmentDhcpStaticBinding, parents := ["net"], id := "fixed" }
  let port : Address := { kind := .segmentPort, parents := ["net"], id := "port" }
  let binding : Address :=
    { kind := .segmentPortSecurityBinding, parents := ["net", "port"], id := "binding" }
  { Store.empty with
    objects :=
      [(router, complete router (.owned "ours")),
       (service, complete service (.bare "edge")),
       (plug, complete plug
         ((Resource.bare "plug").withField "segment_path" (.string "/infra/segments/net"))),
       (segment, complete segment (.owned "net")),
       ({ segment with id := "theirs" },
         complete { segment with id := "theirs" } (.foreign "theirs")),
       (fixed, complete fixed (.bare "fixed")),
       (port, complete port (.owned "port")),
       (binding, complete binding (.bare "binding"))] }

theorem plugged_filled : plugged.Filled :=
  Filled.empty.insertAll
    [(.tier1, [], .owned "ours"), (.tier1LocaleService, ["ours"], .bare "edge"),
      (.tier1SegmentInterface, ["ours", "edge"],
        (Resource.bare "plug").withField "segment_path" (.string "/infra/segments/net")),
      (.segment, [], .owned "net"), (.segment, [], .foreign "theirs"),
      (.segmentDhcpStaticBinding, ["net"], .bare "fixed"), (.segmentPort, ["net"], .owned "port"),
      (.segmentPortSecurityBinding, ["net", "port"], .bare "binding")]
    (by decide) rfl

theorem plugged_housed : plugged.Housed := by decide

theorem plugged_whole : (standard (Store.backend false) none .default).Whole plugged
    { kind := .segment, parents := [], id := "net" } := by
  have hrefers : ∀ a k, a ≠ k → plugged.Refers a k →
      k = { kind := .segment, parents := [], id := "net" } ∧
        a = { kind := .tier1SegmentInterface, parents := ["ours", "edge"], id := "plug" } := by
    have hpairs : ∀ x ∈ plugged.objects, ∀ y ∈ plugged.objects, x.1 ≠ y.1 →
        x.2.mentions (handle y.1.kind y.1.id y.2) = true →
          y.1 = { kind := .segment, parents := [], id := "net" } ∧
            x.1 = { kind := .tier1SegmentInterface, parents := ["ours", "edge"], id := "plug" } := by
      decide
    rintro a k hne ⟨ra, rk, hra, hrk, hmentions⟩
    exact hpairs _ (Assoc.mem_of_find? hra) _ (Assoc.mem_of_find? hrk) hne hmentions
  have hports : ∀ o ∈ plugged.objects, o.1.kind = .segmentPort →
      o.2.hasTag Config.default.marker = true := by decide
  refine {
    kind := rfl
    owned := ⟨_, rfl, by decide, _, rfl, nofun⟩
    ports := fun port _ hkind hstored => ?_
    closed := fun o a _ hne hrefersa => ?_ }
  · obtain ⟨r, hr⟩ := Option.ne_none_iff_exists'.1 hstored
    exact ⟨r, hr, hports _ (Assoc.mem_of_find? hr) hkind, _, by rw [hkind]; rfl, nofun⟩
  · obtain ⟨rfl, rfl⟩ := hrefers a o hne hrefersa
    refine .inr ⟨rfl, rfl, ⟨{ kind := .tier1, parents := [], id := "ours" }, _, rfl,
      ⟨rfl, by decide, _, rfl, nofun⟩, ?_⟩, fun b hne' hrefersb => ?_⟩
    · exact .tail (b := { kind := .tier1LocaleService, parents := ["ours"], id := "edge" })
        (.single (by decide)) (by decide)
    · cases (hrefers b _ hne' hrefersb).1

/-- The segment goes with its static binding, its port and the port's binding. -/
theorem plugged_segment_removed :
    let c := standard (Store.backend false) none .default
    let net : Address := { kind := .segment, parents := [], id := "net" }
    c.Whole plugged net ∧
      ∃ report₁ t₁ report₂ t₂,
        c.sweepCategory .segmentInterfaces (.start plugged) = (.ok report₁, t₁) ∧
        c.sweepCategory .segments t₁ = (.ok report₂, t₂) ∧
        (∀ o, o = net ∨ net.Encloses o → t₂.backend.find? o = none) ∧
        ∀ role target answer, .deletion role target (some answer) ∈ t₂.journal.drop 0 →
          target = net ∨ net.contains target = true ∧ target.kind = .segmentPort ∨
            target.kind = .tier1SegmentInterface ∧ plugged.Refers target net →
          answer = .ok () := by
  have hfilled : (Trace.start plugged).backend.Filled := plugged_filled
  have hhoused : (Trace.start plugged).backend.Housed := plugged_housed
  exact ⟨plugged_whole, whole_segments_removed false none .default rfl (by decide) hfilled hhoused
    rfl rfl plugged_whole⟩

end Sweep

end NetSweep
