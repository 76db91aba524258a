import NetSweep.Proofs.GrantedDeletes
import NetSweep.Proofs.OrderlyCategories

/-!
# Load balancers go in one pass

Virtual servers refer to profiles, services and pools, pools to monitors, and servers and monitors
to certificates, so their kinds are deleted in that order.  Where the marked objects are referred to
by no others, and only from a kind to one that it depends on, each is free when its turn comes.
-/

namespace NetSweep

open Cleanup Store Change

/-- Nothing lies inside an object of load balancing. -/
theorem Kind.childless_of_loadBalancing : ∀ kind ∈ Setting.loadBalancerKinds, ∀ j ∈ all,
    j.parent? ≠ some kind := by decide

/-- A stored object of load balancing that carries the marker. -/
def Store.Balancing (marker : TagPredicate) (s : Store) (k : Address) : Prop :=
  k.kind ∈ Setting.loadBalancerKinds ∧ ∃ r, s.find? k = some r ∧ r.hasTag marker = true

/-- Marked objects of load balancing are referred to only by such objects, of kinds that depend on
theirs. -/
def Store.Layered (marker : TagPredicate) (s : Store) : Prop :=
  ∀ k, s.Balancing marker k → ∀ a, a ≠ k → s.Refers a k →
    s.Balancing marker a ∧ k.kind ∈ a.kind.dependencies

namespace Cleanup.Setting

variable {s : Setting Store} {p : Bool} {b : Store} {k : Address}

theorem owns_nil (r : Resource) : s.owns [] r = r.hasTag s.config.marker := by
  cases h : s.authority <;> simp [owns, withinAuthority, h]

section

variable (hs : s.OnStore p) (hw : b.WellFormed) (hlists : b.listFailures = [])

include hs hw hlists

theorem mem_addresses_balancing {kind : Kind} (hkind : kind ∈ loadBalancerKinds) :
    k ∈ addresses kind [] (s.seenOwned kind [] [] b) ↔
      k.kind = kind ∧ b.Balancing s.config.marker k := by
  obtain ⟨hapi, hcount⟩ := loadBalancerKinds_spec kind hkind
  have hmem : ∀ r, r ∈ s.seenOwned kind [] [] b ↔
      b.find? { kind, parents := [], id := r.id } = some r ∧ r.hasTag s.config.marker = true := by
    intro r
    rw [hs.mem_seenOwned_iff hw hlists (requireAccess_of_policy hapi (by simp [hcount])), owns_nil]
  simp only [addresses, List.mem_map, hmem]
  constructor
  · rintro ⟨r, ⟨hr, hmarked⟩, rfl⟩
    exact ⟨rfl, hkind, r, hr, hmarked⟩
  · rintro ⟨rfl, -, r, hr, hmarked⟩
    obtain ⟨hlisted, hk⟩ := hs.root_listed hw hlists
      (requireAccess_of_policy hapi (by simp [hcount])) hcount rfl hr ((owns_nil r).trans hmarked)
    exact ⟨r, (hmem r).1 hlisted, hk.symm⟩

theorem fells_balancing {kind : Kind} (hkind : kind ∈ loadBalancerKinds) :
    Fells (s.clearing kind [] [] b) k ↔ k.kind = kind ∧ b.Balancing s.config.marker k := by
  rw [← mem_addresses_balancing hs hw hlists hkind, clearing, fells_deletes (by decide), addresses]
  simp only [List.mem_map, eq_comm]

/-- The candidates of the category are the marked objects of load balancing. -/
theorem mem_candidates_balancing :
    k ∈ s.candidates .loadBalancers b ↔ b.Balancing s.config.marker k := by
  rw [candidates, List.mem_flatMap]
  constructor
  · rintro ⟨kind, hkind, hk⟩
    exact ((mem_addresses_balancing hs hw hlists hkind).1 hk).2
  · intro hk
    exact ⟨k.kind, hk.1, (mem_addresses_balancing hs hw hlists hk.1).2 ⟨rfl, hk⟩⟩

theorem length_candidates_balancing : (s.candidates .loadBalancers b).length =
    (b.objects.filter fun o => o.1.kind ∈ loadBalancerKinds ∧ o.2.hasTag s.config.marker).length := by
  have hkeys : ((b.objects.filter fun o =>
      o.1.kind ∈ loadBalancerKinds ∧ o.2.hasTag s.config.marker).map Prod.fst).Nodup :=
    hw.sorted.nodup.sublist (List.filter_sublist.map _)
  rw [← List.length_map Prod.fst]
  refine ((List.perm_ext_iff_of_nodup (hs.nodup_candidates hw _) hkeys).2 fun k => ?_).length_eq
  rw [mem_candidates_balancing hs hw hlists]
  simp only [List.mem_map, List.mem_filter, decide_eq_true_eq]
  constructor
  · rintro ⟨hkind, r, hr, hmarked⟩
    exact ⟨(k, r), ⟨hw.mem_iff.2 hr, hkind, hmarked⟩, rfl⟩
  · rintro ⟨o, ⟨ho, hkind, hmarked⟩, rfl⟩
    exact ⟨hkind, o.2, hw.mem_iff.1 ho, hmarked⟩

/-- Layered objects of load balancing are deleted leaves first. -/
theorem leavesFirst_layered {gone : Address → Prop} (h : b.Layered s.config.marker) :
    LeavesFirst b gone (s.changes .loadBalancers b) := by
  have hfirewall : LeavesFirst b gone ((s.seenOwned .lbService [] [] b).flatMap fun r =>
      s.firewallRemoval b (serviceTag r)) :=
    .flatMap fun _ _ _ _ => leavesFirst_firewallRemoval _
  have horder : leavesFirstKinds [] loadBalancerKinds = true := by decide
  refine hfirewall.append (leavesFirst_layers (Q := b.Balancing s.config.marker) horder
    (fun kind hkind k hk a hobs => ?_) (fun a ha hbalancing => ?_) nofun)
  · obtain ⟨rfl, hbalancing⟩ := (fells_balancing hs hw hlists hkind).1 hk
    obtain ⟨hne, -, hinside | hrefers⟩ := hobs
    · simp only [Address.contains, decide_eq_true_eq] at hinside
      exact absurd hinside.1 (Kind.childless_of_loadBalancing _ hkind _ (Kind.mem_all _))
    · exact (h k hbalancing a hne hrefers).symm
  · exact (fells_balancing hs hw hlists ha).2 ⟨rfl, hbalancing⟩

end

end Cleanup.Setting

namespace Sweep

open Setting

/-- Load balancer cleanup is complete in one pass.  Where the marked objects of load balancing are
layered, the category ends well, has deleted each of them, and has left those without the
marker. -/
theorem loadBalancers_swept_once (p : Bool) (authority : Option Knowledge) (config : Config)
    (hwet : config.dryRun = false) {t : Trace Store} (hfilled : t.backend.Filled)
    (hfail : t.backend.deleteFailures = []) (hlists : t.backend.listFailures = [])
    (hlayered : t.backend.Layered config.marker) :
    let marked := t.backend.objects.filter fun o =>
      o.1.kind ∈ loadBalancerKinds ∧ o.2.hasTag config.marker
    ∃ report t', (standard (Store.backend p) authority config).sweepCategory .loadBalancers t =
        (.ok report, t') ∧
      report.failures = [] ∧ report.candidates = marked.length ∧ report.deleted = marked.length ∧
      (∀ k, t.backend.Balancing config.marker k → t'.backend.find? k = none) ∧
      ∀ k r, t.backend.find? k = some r → k.kind ∈ loadBalancerKinds →
        r.hasTag config.marker = false → t'.backend.find? k = some r := by
  intro marked
  have hw := hfilled.wellFormed
  let c := standard (Store.backend p) authority config
  have hs : (c.setting .loadBalancers).OnStore p := onStore rfl hwet
  have hmild := mild_of_mem_changes hs hw
  have hlf : LeavesFirst t.backend (fun _ => False)
      ((c.setting .loadBalancers).changes .loadBalancers t.backend) :=
    leavesFirst_layered hs hw hlists hlayered
  obtain ⟨hmishaps, hfelled⟩ := hlf.clean hw (.refl hw) hfail (fun _ => False.elim) hmild
    (reached_of_mem_changes hs hw)
  obtain ⟨report, t', hrun⟩ := sweepCategory_calm hs hw hlists (.inr hmishaps)
  obtain ⟨hback, hfailures, -⟩ := sweepCategory_of_ok hs hw hrun
  have hgone : ∀ k, t.backend.Balancing config.marker k → t'.backend.find? k = none := by
    intro k hk
    rw [hback]
    refine hfelled k (fells_append.2 (.inr (fells_flatMap.2 ⟨k.kind, hk.1, ?_⟩)))
    exact (fells_balancing hs hw hlists hk.1).2 ⟨rfl, hk⟩
  obtain ⟨hcandidates, hdeleted⟩ := report_of_all_gone hs hw hrun fun k hk =>
    hgone k ((mem_candidates_balancing hs hw hlists).1 hk)
  rw [length_candidates_balancing hs hw hlists] at hcandidates hdeleted
  refine ⟨report, t', hrun, hfailures.trans hmishaps, hcandidates, hdeleted, hgone,
    fun k r hr hkind hunmarked => ?_⟩
  cases hr' : t'.backend.find? k with
  | some r' =>
    rw [hback] at hr'
    obtain ⟨r₀, hr₀, -, hsame⟩ := ((Thinned.refl hw).applyAll hw hmild).found hr'
    obtain rfl := hsame List.not_mem_nil
    rw [← hr, ← hr₀]
  | none =>
    -- only candidates of the category are deleted, and those are marked
    rw [hback] at hr'
    obtain ⟨role, hmem⟩ := delete_mem_of_removed hr hr'
    obtain rfl := (deletes_of_mem_changes hmem).owned_iff.2 hkind
    obtain ⟨-, r₀, hr₀, hmarked⟩ :=
      (mem_candidates_balancing hs hw hlists).1 (mem_candidates.2 hmem)
    obtain rfl := Option.some.inj (hr.symm.trans hr₀)
    rw [show r.hasTag config.marker = true from hmarked] at hunmarked
    cases hunmarked

def poolServer : Resource :=
  (Resource.owned "server").withField "pool_path" (.string "/infra/lb-pools/pool")

def balanced : Store :=
  let server : Address := { kind := .lbVirtualServer, parents := [], id := "server" }
  let pool : Address := { kind := .lbPool, parents := [], id := "pool" }
  { Store.empty with
    objects :=
      [(server, complete server poolServer),
       (pool, complete pool (.owned "pool")),
       ({ pool with id := "theirs" }, complete { pool with id := "theirs" } (.foreign "theirs"))] }

theorem balanced_filled : balanced.Filled :=
  Filled.empty.insertAll
    [(.lbVirtualServer, [], poolServer), (.lbPool, [], .owned "pool"),
      (.lbPool, [], .foreign "theirs")]
    (by decide) rfl

theorem balanced_layered : balanced.Layered Config.default.marker := by
  have hpairs : ∀ o ∈ balanced.objects, ∀ o' ∈ balanced.objects, o'.1 ≠ o.1 →
      o'.2.mentions (handle o.1.kind o.1.id o.2) = true →
        (o'.1.kind ∈ loadBalancerKinds ∧ o'.2.hasTag Config.default.marker = true) ∧
          o.1.kind ∈ o'.1.kind.dependencies := by decide
  intro k hk a hne ⟨ra, rk, hra, hrk, hmentions⟩
  obtain ⟨⟨hkind, hmarked⟩, hdepends⟩ :=
    hpairs _ (Assoc.mem_of_find? hrk) _ (Assoc.mem_of_find? hra) hne hmentions
  exact ⟨⟨hkind, ra, hra, hmarked⟩, hdepends⟩

/-- The server and its pool go, even where failures are to propagate; the other pool stays. -/
theorem balanced_swept_once :
    let config : Config := { Config.default with policies := [(.loadBalancers, .propagate)] }
    ∃ report t', (standard (Store.backend false) none config).sweepCategory .loadBalancers
        (.start balanced) = (.ok report, t') ∧
      report.failures = [] ∧ report.candidates = 2 ∧ report.deleted = 2 ∧
      (∀ k, balanced.Balancing config.marker k → t'.backend.find? k = none) ∧
      ∀ k r, balanced.find? k = some r → k.kind ∈ loadBalancerKinds →
        r.hasTag config.marker = false → t'.backend.find? k = some r := by
  have hfilled : (Trace.start balanced).backend.Filled := balanced_filled
  have hlayered : (Trace.start balanced).backend.Layered _ := balanced_layered
  exact loadBalancers_swept_once false none _ rfl hfilled rfl rfl hlayered

end Sweep

end NetSweep
