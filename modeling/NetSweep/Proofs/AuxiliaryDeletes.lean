import NetSweep.Proofs.GrantedDeletes
import NetSweep.Proofs.Rehearsals

/-!
# Deletes that nobody reports

When an object that only serves another one cannot be deleted, this is not reported.  As long as
the object is stored its container is, so it is the failed delete of the container that is reported,
by the same category or by a later one.  A logical port has no container.  It is reported only if a
later category finds the port for itself.
-/

namespace NetSweep

open Cleanup Store

namespace Category

/-- The category that is to answer for what another one deletes without answering for it, where
the other one does not answer for the container either. -/
def heir? : Category → Option Category
  | .segmentInterfaces => some .segments
  | .segments => some .dhcp
  | _ => none

/-- The kinds of which a category's candidates stay its candidates while other categories run. -/
def lasting : Category → List Kind
  | .segments => [.segment]
  | .dhcp => [.logicalPort]
  | _ => []

theorem port_not_altered {category : Category} (h : category ≠ .dhcp) :
    Kind.logicalPort ∉ category.altered := by
  revert h
  cases category <;> decide

theorem eq_dhcp_of_port {category : Category} (h : Kind.logicalPort ∈ category.reported) :
    category = .dhcp := by
  revert h
  cases category <;> decide

theorem of_deletes_auxiliary {category : Category} {kind : Kind}
    (h : category.Deletes .auxiliary kind) :
    category ∈ [.segmentInterfaces, .segments, .tier1Routers] := by
  obtain ⟨hkind, hrole⟩ := h
  revert kind
  cases category <;> decide

end Category

/-- Whether every heir comes after the category that it answers for. -/
def Plan.inherited : List Plan.Step → Bool
  | [] => true
  | step :: rest =>
    step.category.heir?.all (· ∈ rest.map Plan.Step.category) && inherited rest

theorem Plan.standard_inherited : inherited standard.steps = true := by decide

/-- A store that keeps every object in a container, answers every list, and has no delete answer
that the object is not there when it is. -/
structure Store.Regular (s : Store) : Prop where
  wellFormed : s.WellFormed
  housed : s.Housed
  sincere : s.Sincere
  lists : s.listFailures = []

namespace Cleanup.Setting

variable {s : Setting Store} {p : Bool} {b b' : Store} {k : Address} {category other : Category}

/-- A marked logical port that serves DHCP, where the manager API is in reach. -/
structure ServicePort (s : Setting Store) (b : Store) (k : Address) (r : Resource) : Prop where
  passthrough : s.backend.allowsPassthrough = true
  kind : k.kind = .logicalPort
  found : b.find? k = some r
  marked : r.hasTag s.config.marker = true
  serves : r.attachmentType = some dhcpServiceType

def knowsAttached (s : Setting Store) (r : Resource) : Bool :=
  withinAuthority s.authority [.attachmentId .dhcpServiceBindings] r

/-- What serves DHCP in what is left of a store served DHCP before, attached to the same. -/
theorem ServicePort.before {altered : List Kind} {r : Resource} (h : s.ServicePort b' k r)
    (hw : b.WellFormed) (hthin : Thinned altered b b') :
    ∃ r₀, s.ServicePort b k r₀ ∧ s.knowsAttached r = s.knowsAttached r₀ := by
  obtain ⟨r₀, hr₀, htrim, -⟩ := hthin.found h.found
  -- the attachment is there, so it was not withdrawn
  have hsame := htrim.attachmentField (hw.fits hr₀).proper (Resource.attached_of_type h.serves)
  have hid : r.attachmentId = r₀.attachmentId := hsame "id"
  refine ⟨r₀, { h with
    found := hr₀
    marked := (htrim.hasTag _).symm.trans h.marked
    serves := (hsame "attachment_type").symm.trans h.serves }, ?_⟩
  simp only [knowsAttached, NetSweep.withinAuthority, List.any_cons, List.any_nil, Narrowing.finds,
    hid]

section

variable (hs : s.OnStore p) (hw : b.WellFormed) (hlists : b.listFailures = [])

include hs hw hlists

/-! ## Candidates that last -/

theorem mem_candidates_segment (hkind : k.kind = .segment) :
    k ∈ s.candidates .segments b ↔ ∃ r, b.find? k = some r ∧ s.owns [.id .networks] r = true := by
  have haccess : requireAccess p .segment [] = .ok () := requireAccess_of_policy rfl rfl
  constructor
  · intro hk
    obtain ⟨segment, hsegment, hk⟩ := List.mem_flatMap.1 hk
    rcases List.mem_append.1 hk with hk | hk
    · cases hkind.symm.trans (place_of_mem_addresses hk).1
    · obtain rfl := List.mem_singleton.1 hk
      exact ⟨segment, (hs.mem_seenOwned_iff hw hlists haccess).1 hsegment⟩
  · rintro ⟨r, hr, howns⟩
    obtain ⟨hmem, rfl⟩ := hs.root_listed hw hlists haccess rfl hkind hr howns
    exact List.mem_flatMap.2 ⟨r, hmem, List.mem_append_right _ (List.mem_singleton_self _)⟩

theorem mem_candidates_port (hkind : k.kind = .logicalPort) :
    k ∈ s.candidates .dhcp b ↔ ∃ r, s.ServicePort b k r ∧ s.knowsAttached r = true := by
  rw [candidates]
  constructor
  · intro hk
    obtain ⟨hpass, hk⟩ := List.mem_ite_nil_right.1 hk
    obtain rfl : p = true := hs.allowsPassthrough.symm.trans hpass
    rcases List.mem_append.1 hk with hk | hk
    · obtain ⟨r, hr, rfl⟩ := List.mem_map.1 hk
      obtain ⟨hr, hserves⟩ := List.mem_filter.1 hr
      obtain ⟨hfound, howns⟩ :=
        (hs.mem_seenOwned_iff hw hlists (requireAccess_of_passthrough rfl)).1 hr
      obtain ⟨hmarked, hknown⟩ := Bool.and_eq_true_iff.1 howns
      exact ⟨r, ⟨hpass, rfl, hfound, hmarked, of_decide_eq_true hserves⟩, hknown⟩
    · cases hkind.symm.trans (place_of_mem_addresses hk).1
  · rintro ⟨r, hport, hknown⟩
    obtain rfl : p = true := hs.allowsPassthrough.symm.trans hport.passthrough
    have howns : s.owns [.attachmentId .dhcpServiceBindings] r = true :=
      Bool.and_eq_true_iff.2 ⟨hport.marked, hknown⟩
    obtain ⟨hmem, rfl⟩ := hs.root_listed hw hlists (requireAccess_of_passthrough rfl) rfl hkind
      hport.found howns
    exact List.mem_ite_nil_right.2 ⟨hport.passthrough, List.mem_append_left _
      (List.mem_map.2 ⟨r, List.mem_filter.2 ⟨hmem, decide_eq_true hport.serves⟩, rfl⟩)⟩

theorem candidate_lasts (hlists' : b'.listFailures = []) (hthin : Thinned category.altered b b')
    (hother : category ≠ other) (hkind : k.kind ∈ other.lasting)
    (hk : k ∈ s.candidates other b) (hleft : b'.find? k ≠ none) : k ∈ s.candidates other b' := by
  have hw' := hthin.wellFormed hw
  obtain ⟨r', hr'⟩ := Option.ne_none_iff_exists'.1 hleft
  obtain ⟨r₀, hr₀, htrim, hsame⟩ := hthin.found hr'
  cases other with
  | segments =>
    have hkind := List.mem_singleton.1 hkind
    obtain ⟨r, hr, howns⟩ := (mem_candidates_segment hs hw hlists hkind).1 hk
    obtain rfl := Option.some.inj (hr.symm.trans hr₀)
    exact (mem_candidates_segment hs hw' hlists' hkind).2
      ⟨r', hr', (owns_id_of_trim htrim).trans howns⟩
  | dhcp =>
    have hkind := List.mem_singleton.1 hkind
    obtain ⟨r, hport, hknown⟩ := (mem_candidates_port hs hw hlists hkind).1 hk
    obtain rfl := Option.some.inj (hport.found.symm.trans hr₀)
    obtain rfl := hsame (hkind ▸ Category.port_not_altered hother)
    exact (mem_candidates_port hs hw' hlists' hkind).2 ⟨r', { hport with found := hr' }, hknown⟩
  | _ => cases hkind

/-! ## What is deleted for the sake of what -/

/-- What a category deletes without answering for it lies in one of its candidates, or it lies in a
segment that is a candidate of the category's heir, or it is a port that serves DHCP. -/
theorem auxiliary_of_mem_changes (h : .delete .auxiliary k ∈ s.changes category b) :
    (∃ outer ∈ s.candidates category b, outer.contains k = true) ∨
    (category = .segmentInterfaces ∧ ∃ outer ∈ s.candidates .segments b,
      outer.kind = .segment ∧ outer.contains k = true) ∨
    category = .segments ∧ ∃ r, s.ServicePort b k r := by
  have hthree := Category.of_deletes_auxiliary (deletes_of_mem_changes h)
  cases category with
  | segmentInterfaces =>
    rcases List.mem_append.1 h with h | h
    · obtain ⟨segment, hsegment, h⟩ := List.mem_flatMap.1 h
      rcases List.mem_append.1 h with h | h
      · obtain ⟨r, -, heq⟩ := mem_deletes.1 h
        cases heq
        refine .inr (.inl ⟨rfl, { kind := .segment, parents := [], id := segment.id }, ?_, rfl, ?_⟩)
        · exact List.mem_flatMap.2
            ⟨segment, hsegment, List.mem_append_right _ (List.mem_singleton_self _)⟩
        · simp [Address.contains, Kind.parent?]
      · rw [List.mem_ite_nil_right] at h
        cases List.mem_singleton.1 h.2
    · obtain ⟨router, -, h⟩ := List.mem_flatMap.1 h
      obtain ⟨service, -, i, -, heq⟩ := mem_unplugging.1 h
      cases heq
  | segments =>
    obtain ⟨segment, hsegment, h⟩ := List.mem_flatMap.1 h
    rcases mem_segmentRemoval.1 h with ⟨port, hport, h⟩ | ⟨hpass, h⟩ | heq
    · rcases mem_portRemoval.1 h with ⟨kind, hkind, r, -, heq⟩ | heq
      · cases heq
        refine .inl ⟨{ kind := .segmentPort, parents := [segment.id], id := port.id }, ?_, ?_⟩
        · exact List.mem_flatMap.2
            ⟨segment, hsegment, List.mem_append_left _ (List.mem_map_of_mem hport)⟩
        · have hparents : ∀ kind ∈ Kind.portBindings, kind.parent? = some .segmentPort := by decide
          simp [Address.contains, hparents kind hkind]
      · cases heq
    · obtain rfl : p = true := hs.allowsPassthrough.symm.trans hpass
      obtain ⟨r, hr, hserves, heq⟩ := mem_dhcpPortRemoval.1 h
      cases heq
      obtain ⟨parents, hfound, htags⟩ :=
        (hs.mem_sought_iff hw hlists (show requireApi true .logicalPort = .ok () from rfl)).1 hr
      obtain rfl : parents = [] := (hw.fits hfound).parents_eq_nil rfl rfl
      refine .inr (.inr ⟨rfl, r, hpass, rfl, hfound, ?_, hserves⟩)
      exact List.all_eq_true.1 htags _ List.mem_cons_self
    · cases heq
  | tier1Routers =>
    obtain ⟨router, hrouter, h⟩ := List.mem_flatMap.1 h
    rcases mem_routerRemoval.1 h with heq | h | ⟨kind, hkind, r, -, heq⟩ | heq
    · cases heq
    · obtain ⟨kind, -, r, -, heq⟩ := mem_firewallRemoval_iff.1 h
      cases heq
    · cases heq
      have hparents : ∀ kind ∈ routerParts, kind.parent? = some .tier1 := by decide
      refine .inl ⟨{ kind := .tier1, parents := [], id := router.id },
        List.mem_map_of_mem hrouter, ?_⟩
      simp [Address.contains, hparents kind hkind]
    · cases heq
  | _ => exact absurd hthree (by decide)

end

end Cleanup.Setting

namespace Sweep

variable {c : Sweep Store} {p : Bool} {steps : List Plan.Step} {t t' : Trace Store}
  {category other : Category} {k : Address} {part : Report.Section} {reports : List Report.Section}

section

variable (hb : c.backend = Store.backend p) (hwet : c.config.dryRun = false)
  (h : t.backend.Regular)

include hb hwet h

/-! ## One category -/

theorem sweepCategory_keeps_regular (hrun : c.sweepCategory category t = (.ok part, t')) :
    t'.backend.Regular ∧ Thinned category.altered t.backend t'.backend := by
  have hs : (c.setting category).OnStore p := onStore hb hwet
  have hw := h.wellFormed
  obtain ⟨hthin, hsame⟩ := sweepCategory_thins hs hw hrun
  have hhoused : t'.backend.Housed := by
    rw [(sweepCategory_of_ok hs hw hrun).1]
    exact h.housed.applyAll
  exact ⟨⟨hthin.wellFormed hw, hhoused, h.sincere.of_failures hsame,
    (congrArg (·.2.2) hsame).trans h.lists⟩, hthin⟩

/-- A candidate that its category does not get rid of is reported. -/
theorem sweepCategory_reports_left (hrun : c.sweepCategory category t = (.ok part, t'))
    (hk : k ∈ (c.setting category).candidates category t.backend)
    (hleft : t'.backend.find? k ≠ none) : ∃ f ∈ part.failures, f.Names k := by
  have hs : (c.setting category).OnStore p := onStore hb hwet
  obtain ⟨hback, hfailures, -⟩ := sweepCategory_of_ok hs h.wellFormed hrun
  rw [hback] at hleft
  rw [hfailures]
  exact mishap_of_left h.sincere (reached_of_mem_changes hs h.wellFormed)
    (Setting.mem_candidates.1 hk) hleft

/-- Of what a category tries to delete without answering for it, and leaves, the object or its
container is reported or is left to the heir, unless it is a port whose attachment the orchestrator
does not know. -/
theorem sweepCategory_answers (hrun : c.sweepCategory category t = (.ok part, t'))
    (hmem : .delete .auxiliary k ∈ (c.setting category).changes category t.backend)
    (hleft : t'.backend.find? k ≠ none)
    (hknown : ∀ r, (c.setting category).ServicePort t.backend k r →
      (c.setting category).knowsAttached r = true) :
    ∃ outer, (outer = k ∨ outer.contains k = true) ∧ t'.backend.find? outer ≠ none ∧
      ((∃ f ∈ part.failures, f.Names outer) ∨
        ∃ heir, category.heir? = some heir ∧ outer.kind ∈ heir.lasting ∧
          outer ∈ (c.setting heir).candidates heir t'.backend) := by
  have hs : (c.setting category).OnStore p := onStore hb hwet
  obtain ⟨h', hthin⟩ := sweepCategory_keeps_regular hb hwet h hrun
  have hlasts : ∀ {heir outer}, category ≠ heir → outer.kind ∈ heir.lasting →
      outer ∈ (c.setting category).candidates heir t.backend → t'.backend.find? outer ≠ none →
        outer ∈ (c.setting heir).candidates heir t'.backend := by
    intro heir outer hother hkind hk hstored
    rw [← candidates_setting category]
    exact Setting.candidate_lasts hs h.wellFormed h.lists h'.lists hthin hother hkind hk hstored
  rcases Setting.auxiliary_of_mem_changes hs h.wellFormed h.lists hmem with
    ⟨outer, hk, hcontains⟩ | ⟨rfl, outer, hk, hkind, hcontains⟩ | ⟨rfl, r, hport⟩
  · have hstored := h'.housed.container_stored hleft hcontains
    have hreported := sweepCategory_reports_left hb hwet h hrun hk hstored
    exact ⟨outer, .inr hcontains, hstored, .inl hreported⟩
  · have hstored := h'.housed.container_stored hleft hcontains
    have hkind : outer.kind ∈ Category.segments.lasting := List.mem_singleton.2 hkind
    exact ⟨outer, .inr hcontains, hstored, .inr ⟨.segments, rfl, hkind,
      hlasts (by decide) hkind hk hstored⟩⟩
  · have hk := (Setting.mem_candidates_port hs h.wellFormed h.lists hport.kind).2
      ⟨r, hport, hknown r hport⟩
    have hkind : k.kind ∈ Category.dhcp.lasting := List.mem_singleton.2 hport.kind
    exact ⟨k, .inl rfl, hleft, .inr ⟨.dhcp, rfl, hkind, hlasts (by decide) hkind hk hleft⟩⟩

/-! ## The categories of a run -/

theorem runSteps_isolated (hisolate : ∀ category, c.config.policies.of category = .isolate)
    (steps : List Plan.Step) : ∃ reports t', c.runSteps steps t = (.ok reports, t') := by
  induction steps generalizing t with
  | nil => exact ⟨[], t, rfl⟩
  | cons step steps ih =>
    obtain ⟨part, t₁, hstep, -⟩ :=
      sweepCategory_isolated (onStore hb hwet) h.wellFormed (hisolate step.category) h.lists
    obtain ⟨reports, t', hrest⟩ := ih (sweepCategory_keeps_regular hb hwet h hstep).1
    exact ⟨part :: reports, t', by simp only [runSteps, hstep, hrest]⟩

theorem runSteps_keeps_regular (hrun : c.runSteps steps t = (.ok reports, t')) :
    t'.backend.Regular ∧ Thinned [.segment, .logicalPort] t.backend t'.backend := by
  induction steps generalizing t reports with
  | nil =>
    obtain ⟨-, rfl⟩ := Prod.mk.inj hrun
    exact ⟨h, .refl h.wellFormed⟩
  | cons step steps ih =>
    obtain ⟨part, t₁, later, hstep, hrest, rfl⟩ := runSteps_cons_eq_ok hrun
    obtain ⟨h₁, hthin₁⟩ := sweepCategory_keeps_regular hb hwet h hstep
    obtain ⟨h', hthin⟩ := ih h₁ hrest
    exact ⟨h', (hthin₁.mono step.category.altered_subset).trans hthin⟩

theorem stored_before (hrun : c.runSteps steps t = (.ok reports, t'))
    (hleft : t'.backend.find? k ≠ none) : t.backend.find? k ≠ none := fun hnone =>
  hleft ((runSteps_keeps_regular hb hwet h hrun).2.find?_none hnone)

/-- A candidate of a category that is still to come is reported if the run leaves it, as long as it
stays a candidate until then. -/
theorem runSteps_reports_candidate (hrun : c.runSteps steps t = (.ok reports, t'))
    (hcomes : other ∈ steps.map Plan.Step.category) (hkind : k.kind ∈ other.lasting)
    (hk : k ∈ (c.setting other).candidates other t.backend) (hleft : t'.backend.find? k ≠ none) :
    ∃ part ∈ reports, ∃ f ∈ part.failures, f.Names k := by
  induction steps generalizing t reports with
  | nil => cases hcomes
  | cons step steps ih =>
    obtain ⟨part, t₁, later, hstep, hrest, rfl⟩ := runSteps_cons_eq_ok hrun
    obtain ⟨h₁, hthin₁⟩ := sweepCategory_keeps_regular hb hwet h hstep
    have hleft₁ := stored_before hb hwet h₁ hrest hleft
    by_cases hturn : step.category = other
    · subst hturn
      obtain ⟨f, hf, hnames⟩ := sweepCategory_reports_left hb hwet h hstep hk hleft₁
      exact ⟨part, List.mem_cons_self, f, hf, hnames⟩
    · have hs : (c.setting other).OnStore p := onStore hb hwet
      have hk₁ := Setting.candidate_lasts hs h.wellFormed h.lists h₁.lists hthin₁ hturn hkind hk
        hleft₁
      have hcomes := (List.mem_cons.1 hcomes).resolve_left (Ne.symm hturn)
      obtain ⟨part', hpart', hreported⟩ := ih h₁ hrest hcomes hk₁
      exact ⟨part', List.mem_cons_of_mem _ hpart', hreported⟩

/-- Only what was a candidate when the run began is reported. -/
theorem candidate_of_reported (hrun : c.runSteps steps t = (.ok reports, t'))
    (hpart : part ∈ reports) {f : FailedDelete} (hf : f ∈ part.failures) :
    ∃ category, ∃ k ∈ (c.setting category).candidates category t.backend, f.Names k := by
  induction steps generalizing t reports with
  | nil =>
    obtain ⟨hnil, -⟩ := Prod.mk.inj hrun
    obtain rfl := Except.ok.inj hnil
    cases hpart
  | cons step steps ih =>
    obtain ⟨part₁, t₁, later, hstep, hrest, rfl⟩ := runSteps_cons_eq_ok hrun
    rcases List.mem_cons.1 hpart with rfl | hpart
    · have hs : (c.setting step.category).OnStore p := onStore hb hwet
      rw [(sweepCategory_of_ok hs h.wellFormed hstep).2.1] at hf
      obtain ⟨k, hmem, hnames⟩ := mem_mishaps hf
      exact ⟨_, k, Setting.mem_candidates.2 hmem, hnames⟩
    · obtain ⟨h₁, hthin₁⟩ := sweepCategory_keeps_regular hb hwet h hstep
      obtain ⟨category, k, hk, hnames⟩ := ih h₁ hrest hpart
      have hs : (c.setting category).OnStore p := onStore hb hwet
      have hsteady : ∀ kind ∈ category.steady, kind ∉ step.category.altered :=
        fun kind hkind haltered =>
          category.steady_spared kind hkind (step.category.altered_subset haltered)
      exact ⟨category, k, Setting.candidates_subset hs h.wellFormed hthin₁
        (h₁.lists.trans h.lists.symm) category hsteady hk, hnames⟩

/-- In a run in which heirs come later, the object or its container is reported. -/
theorem runSteps_answers (hrun : c.runSteps steps t = (.ok reports, t'))
    (hinherited : Plan.inherited steps = true) (hmem : .delete .auxiliary k ∈ changesSince t t')
    (hleft : t'.backend.find? k ≠ none)
    (hknown : ∀ category r, (c.setting category).ServicePort t.backend k r →
      (c.setting category).knowsAttached r = true) :
    ∃ outer, (outer = k ∨ outer.contains k = true) ∧
      ∃ part ∈ reports, ∃ f ∈ part.failures, f.Names outer := by
  induction steps generalizing t reports with
  | nil =>
    obtain ⟨-, rfl⟩ := Prod.mk.inj hrun
    rw [changesSince, List.drop_length] at hmem
    cases hmem
  | cons step steps ih =>
    obtain ⟨part, t₁, later, hstep, hrest, rfl⟩ := runSteps_cons_eq_ok hrun
    obtain ⟨hheir, hinherited⟩ := Bool.and_eq_true_iff.1 hinherited
    obtain ⟨h₁, hthin₁⟩ := sweepCategory_keeps_regular hb hwet h hstep
    have hs : (c.setting step.category).OnStore p := onStore hb hwet
    have hgrown₁ := sweepCategory_replays hb step.category t
    have hgrown := runSteps_replays hb steps t₁
    rw [hstep] at hgrown₁
    rw [hrest] at hgrown
    rw [changesSince_trans hgrown₁ hgrown] at hmem
    -- asked for by the first category, or by a later one
    rcases List.mem_append.1 hmem with hmem | hmem
    · rw [changesSince_eq hs h.wellFormed hstep] at hmem
      have hasked := (sweepCategory_events hs h.wellFormed hstep).2.2.2.1.subset hmem
      obtain ⟨outer, hinside, hstored₁, hreported | ⟨heir, hisheir, hkind, hk⟩⟩ :=
        sweepCategory_answers hb hwet h hstep hasked (stored_before hb hwet h₁ hrest hleft)
          (hknown step.category)
      · exact ⟨outer, hinside, part, List.mem_cons_self, hreported⟩
      · have hcomes : heir ∈ steps.map Plan.Step.category := by
          rw [hisheir] at hheir
          exact of_decide_eq_true hheir
        have hstored : t'.backend.find? outer ≠ none := by
          rcases hinside with rfl | hcontains
          · exact hleft
          · have h' := (runSteps_keeps_regular hb hwet h₁ hrest).1
            exact h'.housed.container_stored hleft hcontains
        obtain ⟨part', hpart', hreported⟩ :=
          runSteps_reports_candidate hb hwet h₁ hrest hcomes hkind hk hstored
        exact ⟨outer, hinside, part', List.mem_cons_of_mem _ hpart', hreported⟩
    · have hknown₁ : ∀ category r, (c.setting category).ServicePort t₁.backend k r →
          (c.setting category).knowsAttached r = true := by
        intro category r hport
        obtain ⟨r₀, hport₀, hsame⟩ := hport.before h.wellFormed hthin₁
        rw [hsame]
        exact hknown category r₀ hport₀
      obtain ⟨outer, hinside, part', hpart', hreported⟩ := ih h₁ hrest hinherited hmem hknown₁
      exact ⟨outer, hinside, part', List.mem_cons_of_mem _ hpart', hreported⟩

end

/-- Of what a whole cleanup tries to delete without answering for it, and leaves, the object or
something around it is reported, with one exception.  A logical port that serves DHCP has nothing
around it, and goes unreported exactly if there is an authority and that does not know what the
port is attached to. -/
theorem auxiliaries_reported_iff (p : Bool) (authority : Option Knowledge) (config : Config)
    (hwet : config.dryRun = false)
    (hisolate : ∀ category, config.policies.of category = .isolate) {t : Trace Store}
    (hfilled : t.backend.Filled) (hhoused : t.backend.Housed) (hsincere : t.backend.Sincere)
    (hlists : t.backend.listFailures = []) :
    let c := standard (Store.backend p) authority config
    ∃ report t', c.sweepAll t = (.ok report, t') ∧
      ∀ k, .delete .auxiliary k ∈ changesSince t t' → t'.backend.find? k ≠ none →
        ((∃ outer, (outer = k ∨ outer.Encloses k) ∧
            ∃ part ∈ report.categories, ∃ f ∈ part.failures, f.Names outer) ↔
          (k.kind = .logicalPort → ∀ r, t.backend.find? k = some r →
            withinAuthority authority [.attachmentId .dhcpServiceBindings] r = true)) := by
  intro c
  have h : (noted c.starting t).backend.Regular :=
    ⟨hfilled.wellFormed, hhoused, hsincere, hlists⟩
  obtain ⟨reports, t', hrun⟩ := runSteps_isolated (c := c) rfl hwet h hisolate c.plan.steps
  refine ⟨_, _, by rw [sweepAll, hrun], fun k hmem hleft => ?_⟩
  constructor
  · rintro ⟨outer, hinside, part, hpart, f, hf, hnames⟩ hkind r hr
    rcases hinside with rfl | hinside
    · obtain ⟨category, k, hk, hnamed⟩ := candidate_of_reported rfl hwet h hrun hpart hf
      have hs : (c.setting category).OnStore p := onStore rfl hwet
      have hsame : k.kind = outer.kind := hnamed.1.symm.trans hnames.1
      have hport : k.kind = .logicalPort := hsame.trans hkind
      have hdeletes := Setting.deletes_of_mem_changes (Setting.mem_candidates.1 hk)
      obtain rfl := Category.eq_dhcp_of_port (hport ▸ hdeletes.owned_iff.1 rfl)
      obtain ⟨r₀, hserves, hknown⟩ :=
        (Setting.mem_candidates_port hs h.wellFormed h.lists hport).1 hk
      have hr₀ := hserves.found
      obtain rfl : k = outer := by
        have hroot := (h.wellFormed.fits hr₀).parents_eq_nil hport rfl
        have hroot' := (h.wellFormed.fits hr).parents_eq_nil hkind rfl
        exact Address.ext hsame (hroot.trans hroot'.symm) (hnamed.2.symm.trans hnames.2)
      obtain rfl := Option.some.inj (hr.symm.trans hr₀)
      exact hknown
    · obtain ⟨around, -, hcontains⟩ := Relation.TransGen.tail'_iff.1 hinside
      have hparent := Address.kind_of_contains hcontains
      rw [hkind] at hparent
      cases hparent
  · intro hknown
    obtain ⟨outer, hinside, hreported⟩ := runSteps_answers rfl hwet h hrun Plan.standard_inherited
      hmem hleft fun category r hport => hknown hport.kind r hport.found
    exact ⟨outer, hinside.imp_right .single, hreported⟩

def servedRefusing : Store := served.failDelete .logicalPort "port" (.unauthenticated "expired")

/-- The segment's port stays when the segment goes.  Nobody knows what it is attached to, so the
report does not list it. -/
theorem unknown_port_unreported :
    let c := standard (Store.backend true) (some fun _ id => id = "net") isolating
    let port : Address := { kind := .logicalPort, parents := [], id := "port" }
    ∃ report t', c.sweepAll (.start servedRefusing) = (.ok report, t') ∧
      .delete .auxiliary port ∈ changesSince (.start servedRefusing) t' ∧
      t'.backend.find? port ≠ none ∧
      ¬ ∃ outer, (outer = port ∨ outer.Encloses port) ∧
        ∃ part ∈ report.categories, ∃ f ∈ part.failures, f.Names outer := by
  have hfilled : (Trace.start servedRefusing).backend.Filled := served_filled.failDelete _ _ _
  have hisolate : ∀ category, isolating.policies.of category = .isolate := fun category => by
    cases category <;> rfl
  have hhoused : (Trace.start servedRefusing).backend.Housed :=
    show servedRefusing.Housed by decide
  have hsincere : (Trace.start servedRefusing).backend.Sincere := by
    intro key e he
    have hall : ∀ f ∈ servedRefusing.deleteFailures, f.2.isNotFound = false := by decide
    exact hall _ (Assoc.mem_of_find? he)
  obtain ⟨report, t', hrun, hiff⟩ := auxiliaries_reported_iff true
    (some fun _ id => id = "net") isolating rfl hisolate hfilled hhoused hsincere rfl
  have ht' : t' = ((standard (Store.backend true) (some fun _ id => id = "net")
      isolating).sweepAll (.start servedRefusing)).2 := by rw [hrun]
  have hmem : .delete .auxiliary { kind := .logicalPort, parents := [], id := "port" } ∈
      changesSince (.start servedRefusing) t' := by
    rw [ht']
    decide +kernel
  have hleft : t'.backend.find? { kind := .logicalPort, parents := [], id := "port" } ≠ none := by
    rw [ht']
    decide +kernel
  refine ⟨report, t', hrun, hmem, hleft, fun hreported => ?_⟩
  have hknown := (hiff _ hmem hleft).1 hreported rfl _ rfl
  revert hknown
  decide

end Sweep

end NetSweep
