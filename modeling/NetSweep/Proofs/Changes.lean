import NetSweep.Cleanup.Category
import NetSweep.Proofs.ThinnedStores

/-!
# The changes that a category asks for

A category lists, deletes, lists again and so on.  Here is what it would ask for if all its lists
and searches were answered from a single state of the backend: a list of changes, in order.  What
a change does to a store, and what any list of changes leaves of it, follows.
-/

namespace NetSweep

def Kind.inDomain (k : Kind) : Bool := k.parentCount = 1 && k.parent?.isNone

def Answer.items {α : Type} : Answer (List α) → List α
  | .ok found => found
  | .error _ => []

namespace Cleanup

/-- A change that cleanup asks of its backend. -/
inductive Change where
  | delete (role : Role) (target : Address)
  | update (target : Address) (body : Json)
deriving DecidableEq

def deletes (role : Role) (kind : Kind) (parents : List String) (found : List Resource) :
    List Change := found.map fun r => .delete role { kind, parents, id := r.id }

namespace Setting

variable {σ : Type} (s : Setting σ)

def seen (kind : Kind) (parents : List String) (b : σ) : List Resource :=
  (s.backend.list kind parents b).1.items

def sought (kind : Kind) (tags : List TagPredicate) (b : σ) : List Resource :=
  (s.backend.search kind tags b).1.items

def seenOwned (kind : Kind) (parents : List String) (rules : List Narrowing) (b : σ) :
    List Resource := ownedAmong s.config.marker s.authority rules (s.seen kind parents b)

/-- Deletes of all that a list gives in a state, as serving what contains it. -/
def emptying (kind : Kind) (parents : List String) (b : σ) : List Change :=
  deletes .auxiliary kind parents (s.seen kind parents b)

def clearing (kind : Kind) (parents : List String) (rules : List Narrowing) (b : σ) :
    List Change := deletes .owned kind parents (s.seenOwned kind parents rules b)

def detaching (b : σ) (segment : Resource) : List Change :=
  s.emptying .segmentDhcpStaticBinding [segment.id] b ++
    if (segment.field "connectivity_path").isSome then
      [.update { kind := .segment, parents := [], id := segment.id } disconnection]
    else []

def unplugging (b : σ) (router : String) : List Change :=
  (s.seen .tier1LocaleService [router] b).flatMap fun service =>
    deletes .owned .tier1SegmentInterface [router, service.id]
      (s.seen .tier1SegmentInterface [router, service.id] b)

def portRemoval (b : σ) (segment port : String) : List Change :=
  (Kind.portBindings.flatMap fun kind => s.emptying kind [segment, port] b) ++
    [.delete .owned { kind := .segmentPort, parents := [segment], id := port }]

def dhcpPortRemoval (b : σ) (segment : String) : List Change :=
  deletes .auxiliary .logicalPort []
    ((s.sought .logicalPort [s.config.marker, .exact networkScope segment] b).filter
      (·.attachmentType = some dhcpServiceType))

def segmentRemoval (b : σ) (segment : String) : List Change :=
  ((s.seenOwned .segmentPort [segment] [.id .ports, .id .portMappings] b).flatMap fun port =>
      s.portRemoval b segment port.id) ++
    ((if s.backend.allowsPassthrough then s.dhcpPortRemoval b segment else []) ++
      [.delete .owned { kind := .segment, parents := [], id := segment }])

def firewallRemoval (b : σ) (tag : TagPredicate) : List Change :=
  Plan.firewallKinds.flatMap fun kind =>
    deletes .shared kind (s.domainParents kind) (s.sought kind [tag] b)

def serviceTag (service : Resource) : TagPredicate :=
  .exact loadBalancerScope ((service.tagValue loadBalancerScope).getD service.id)

/-- What deleting a logical port that serves DHCP asks for; nothing if it does not serve DHCP. -/
def servicePortRemoval (port : Resource) : List Change :=
  let target : Address := { kind := .logicalPort, parents := [], id := port.id }
  if port.attachmentType = some dhcpServiceType then
    [.update target detachment, .delete .owned target]
  else []

def routerRemoval (b : σ) (router : String) : List Change :=
  .delete .shared { kind := .gatewayPolicy, parents := [s.config.domain], id := router } ::
    (s.firewallRemoval b (.exact routerScope router) ++
      ((routerParts.flatMap fun kind => s.emptying kind [router] b) ++
        [.delete .owned { kind := .tier1, parents := [], id := router }]))

/-- What a category asks for when everything it lists and searches is read off one state. -/
def changes : Category → σ → List Change
  | .securityGroups, b =>
    s.clearing .communicationMap [s.config.domain] [.id .securityGroups] b ++
      s.clearing .group [s.config.domain]
        [.id .securityGroups, .idStart .securityGroupRules Narrowing.uuidLength] b
  | .segmentInterfaces, b =>
    (s.seenOwned .segment [] [.id .networks] b).flatMap (s.detaching b) ++
      (s.seenOwned .tier1 [] [.id .routers] b).flatMap fun r => s.unplugging b r.id
  | .segments, b =>
    (s.seenOwned .segment [] [.id .networks] b).flatMap fun r => s.segmentRemoval b r.id
  | .qosPolicies, b => s.clearing .qosProfile [] [.id .qosPolicies] b
  | .loadBalancers, b =>
    ((s.seenOwned .lbService [] [] b).flatMap fun r => s.firewallRemoval b (serviceTag r)) ++
      loadBalancerKinds.flatMap fun kind => s.clearing kind [] [] b
  | .dhcp, b =>
    if s.backend.allowsPassthrough then
      (s.seenOwned .logicalPort [] [.attachmentId .dhcpServiceBindings] b).flatMap
          servicePortRemoval ++
        s.clearing .dhcpServer [] [.id .dhcpServiceBindings] b
    else []
  | .tier1Routers, b =>
    (s.seenOwned .tier1 [] [.id .routers] b).flatMap fun r => s.routerRemoval b r.id

end Setting

namespace Change

def target : Change → Address
  | delete _ target | update target _ => target

/-- What a change makes of a store, whether or not it is refused. -/
def apply (p : Bool) (c : Change) (s : Store) : Store :=
  match c with
  | delete _ k => (Store.delete p k.kind k.parents k.id s).2
  | update k body => (Store.patch p k.kind k.parents k.id body s).2

def applyAll (p : Bool) (cs : List Change) (s : Store) : Store :=
  cs.foldl (fun s c => c.apply p s) s

/-- A change that stays out of the other policy domains and, if it is an update, only withdraws
fields, of an object of one of the given kinds. -/
structure Mild (altered : List Kind) (domain : String) (c : Change) : Prop where
  place : c.target.kind.inDomain = true → c.target.parents = [domain]
  withdrawal : ∀ {k body}, c = .update k body → k.kind ∈ altered ∧
    ∃ names : List String, body = .object (names.map (·, .null)) ∧
      ∀ n ∈ names, n ∉ Resource.ownKeys

theorem Mild.mono {altered more : List Kind} {domain : String} {c : Change}
    (h : c.Mild altered domain) (hm : altered ⊆ more) : c.Mild more domain where
  place := h.place
  withdrawal hc := (h.withdrawal hc).imp_left (@hm _)

@[simp] theorem applyAll_nil (p : Bool) (s : Store) : applyAll p [] s = s := rfl

@[simp] theorem applyAll_cons (p : Bool) (c : Change) (cs : List Change) (s : Store) :
    applyAll p (c :: cs) s = applyAll p cs (c.apply p s) := rfl

theorem applyAll_append (p : Bool) (cs cs' : List Change) (s : Store) :
    applyAll p (cs ++ cs') s = applyAll p cs' (applyAll p cs s) := List.foldl_append

end Change

end Cleanup

namespace Store

open Cleanup Change

variable {altered : List Kind} {domain : String} {s t : Store} {p : Bool} {c : Change}
  {cs : List Change}

/-- A change of an object that is not there changes nothing. -/
theorem apply_of_find?_none (h : s.find? c.target = none) : c.apply p s = s := by
  cases c with
  | delete role k =>
    simp only [Change.target] at h
    simp only [Change.apply, Store.delete]
    split
    · rfl
    · simp [h]
  | update k body =>
    simp only [Change.target] at h
    simp only [Change.apply, Store.patch]
    split
    · rfl
    · split
      · rfl
      · simp [h]

/-- A change leaves every other object as it is. -/
theorem find?_apply_of_ne {k : Address} (hk : k ≠ c.target) :
    (c.apply p s).find? k = s.find? k := by
  cases c with
  | delete role k' =>
    rcases delete_cases p k' s with h | ⟨r, -, -, -, h⟩
    · rw [Change.apply, h]
    · rw [Change.apply, h]
      exact Assoc.find?_erase_ne hk _
  | update k' body =>
    rcases patch_cases p k' body s with h | ⟨r, r', -, -, -, -, h⟩
    · rw [Change.apply, h]
    · rw [Change.apply, h]
      exact Assoc.find?_insert_ne hk _ _

/-- What is gone stays gone. -/
theorem find?_apply_none {k : Address} (hk : s.find? k = none) : (c.apply p s).find? k = none := by
  by_cases h : k = c.target
  · rwa [apply_of_find?_none (h ▸ hk)]
  · rwa [find?_apply_of_ne h]

theorem find?_applyAll_none {k : Address} (hk : s.find? k = none) :
    (Change.applyAll p cs s).find? k = none := by
  induction cs generalizing s with
  | nil => exact hk
  | cons c cs ih => exact ih (find?_apply_none hk)

/-- What a mild update that goes through does. -/
theorem patch_cases_of_mild (hs : s.WellFormed) {k : Address} {body : Json}
    (hc : (Change.update k body).Mild altered domain) :
    (Change.update k body).apply p s = s ∨
      ∃ r names, requireAccess p k.kind k.parents = .ok () ∧ s.find? k = some r ∧
        body = .object (names.map (·, .null)) ∧ (∀ n ∈ names, n ∉ Resource.ownKeys) ∧
        Assoc.find? (k.kind, k.id) s.patchFailures = none ∧
        (Change.update k body).apply p s =
          { s with
            objects := Assoc.insert k (r.without names) s.objects
            patched := s.patched ++ [(k.kind, k.id)] } := by
  rcases patch_cases p k body s with h | ⟨r, r', haccess, hr, hr', hf, h⟩
  · exact .inl h
  · obtain ⟨-, names, rfl, hn⟩ := hc.withdrawal rfl
    rw [Resource.patchResource?_withdrawal (hs.fits hr).proper hn] at hr'
    obtain rfl := Option.some.inj hr'
    exact .inr ⟨r, names, haccess, hr, rfl, hn, hf, h⟩

theorem Thinned.apply (h : Thinned altered s t) (hs : s.WellFormed) (hc : c.Mild altered domain) :
    Thinned altered s (c.apply p t) := by
  cases c with
  | delete role k =>
    rcases delete_cases p k t with h' | ⟨r, -, -, -, h'⟩
    · rwa [Change.apply, h']
    · rw [Change.apply, h']
      exact h.erase k rfl
  | update k body =>
    rcases patch_cases_of_mild (p := p) (h.wellFormed hs) hc with
      h' | ⟨r, names, -, hr, -, -, -, h'⟩
    · rwa [h']
    · rw [h']
      exact h.trim hs hr (r.without_trimOf names) (hc.withdrawal rfl).1 rfl

theorem Thinned.applyAll (h : Thinned altered s t) (hs : s.WellFormed)
    (hcs : ∀ c ∈ cs, c.Mild altered domain) : Thinned altered s (Change.applyAll p cs t) := by
  induction cs generalizing t with
  | nil => exact h
  | cons c cs ih =>
    exact ih (h.apply hs (hcs c List.mem_cons_self)) fun c hc => hcs c (List.mem_cons_of_mem _ hc)

/-- The failures arranged in a store; no change touches them. -/
def failures (s : Store) :
    List ((Kind × String) × BackendError) × List ((Kind × String) × BackendError) ×
      List (Kind × BackendError) := (s.deleteFailures, s.patchFailures, s.listFailures)

theorem failures_apply (p : Bool) (c : Change) (s : Store) :
    (c.apply p s).failures = s.failures := by
  cases c with
  | delete role k =>
    rcases delete_cases p k s with h | ⟨r, -, -, -, h⟩
    · rw [Change.apply, h]
    · rw [Change.apply, h]
      rfl
  | update k body =>
    rcases patch_cases p k body s with h | ⟨r, r', -, -, -, -, h⟩
    · rw [Change.apply, h]
    · rw [Change.apply, h]
      rfl

theorem failures_applyAll (p : Bool) (cs : List Change) (s : Store) :
    (Change.applyAll p cs s).failures = s.failures := by
  induction cs generalizing s with
  | nil => rfl
  | cons c cs ih => exact (ih (c.apply p s)).trans (failures_apply p c s)

/-- Changes of what was gone from the start can be left out. -/
theorem applyAll_filter (h : Thinned altered s t) (hs : s.WellFormed)
    (hcs : ∀ c ∈ cs, c.Mild altered domain) :
    Change.applyAll p (cs.filter fun c => (s.find? c.target).isSome) t =
      Change.applyAll p cs t := by
  induction cs generalizing t with
  | nil => rfl
  | cons c cs ih =>
    have hrest : ∀ c ∈ cs, c.Mild altered domain := fun c hc => hcs c (List.mem_cons_of_mem _ hc)
    rw [applyAll_cons, List.filter_cons]
    split
    · exact ih (h.apply hs (hcs c List.mem_cons_self)) hrest
    · rename_i hc
      rw [apply_of_find?_none (h.find?_none (by simpa using hc))]
      exact ih h hrest

/-! ## Telling a change from its effect -/

/-- Only a delete removes an object, and only if nothing kept the object. -/
theorem delete_of_removed {k : Address} {r : Resource} (hr : s.find? k = some r)
    (hgone : (c.apply p s).find? k = none) :
    ∃ role, c = .delete role k ∧ s.obstacle? k r = none := by
  obtain rfl : k = c.target := by
    by_contra hk
    rw [find?_apply_of_ne hk, hr] at hgone
    cases hgone
  cases c with
  | delete role k =>
    rcases delete_cases p k s with h | ⟨r', -, hr', ho, -⟩
    · rw [Change.apply, h, hr] at hgone
      cases hgone
    · obtain rfl : r' = r := Option.some.inj (hr'.symm.trans hr)
      exact ⟨role, rfl, ho⟩
  | update k body =>
    simp only [Change.target] at hr hgone
    rcases patch_cases p k body s with h | ⟨r₁, r₂, -, -, -, -, h⟩
    · rw [Change.apply, h, hr] at hgone
      cases hgone
    · simp [Change.apply, h, find?] at hgone

/-- Only an update alters an object. -/
theorem update_of_altered {k : Address} {r r' : Resource} (hr : s.find? k = some r)
    (hr' : (c.apply p s).find? k = some r') (hne : r' ≠ r) : ∃ body, c = .update k body := by
  obtain rfl : k = c.target := by
    by_contra hk
    rw [find?_apply_of_ne hk, hr] at hr'
    exact hne (Option.some.inj hr').symm
  cases c with
  | delete role k =>
    simp only [Change.target] at hr hr'
    rcases delete_cases p k s with h | ⟨r₁, -, -, -, h⟩
    · rw [Change.apply, h, hr] at hr'
      exact absurd (Option.some.inj hr').symm hne
    · simp [Change.apply, h, find?] at hr'
  | update k body => exact ⟨body, rfl⟩

/-- What changes removed, one of them deletes. -/
theorem delete_mem_of_removed {k : Address} {r : Resource} (hr : s.find? k = some r)
    (hgone : (Change.applyAll p cs s).find? k = none) : ∃ role, .delete role k ∈ cs := by
  induction cs generalizing s r with
  | nil =>
    rw [applyAll_nil, hr] at hgone
    cases hgone
  | cons c cs ih =>
    cases hr' : (c.apply p s).find? k with
    | none =>
      obtain ⟨role, rfl, -⟩ := delete_of_removed hr hr'
      exact ⟨role, List.mem_cons_self⟩
    | some r' =>
      obtain ⟨role, hmem⟩ := ih hr' hgone
      exact ⟨role, List.mem_cons_of_mem _ hmem⟩

/-- What changes altered, one of them updates. -/
theorem update_mem_of_altered (hs : s.WellFormed) (hcs : ∀ c ∈ cs, c.Mild altered domain)
    {k : Address} {r r' : Resource} (hr : s.find? k = some r)
    (hr' : (Change.applyAll p cs s).find? k = some r') (hne : r' ≠ r) :
    ∃ body, .update k body ∈ cs := by
  induction cs generalizing s r with
  | nil => exact absurd (Option.some.inj (hr'.symm.trans hr)) hne
  | cons c cs ih =>
    have hthin : Thinned altered s (c.apply p s) :=
      (Thinned.refl hs).apply hs (hcs c List.mem_cons_self)
    have hrest : ∀ c ∈ cs, c.Mild altered domain := fun c hc => hcs c (List.mem_cons_of_mem _ hc)
    by_cases hc : (c.apply p s).find? k = some r
    · obtain ⟨body, hmem⟩ := ih (hthin.wellFormed hs) hrest hc hr' hne
      exact ⟨body, List.mem_cons_of_mem _ hmem⟩
    · cases hr'' : (c.apply p s).find? k with
      | none =>
        rw [applyAll_cons, find?_applyAll_none hr''] at hr'
        cases hr'
      | some r₁ =>
        have hne' : r₁ ≠ r := fun e => hc (e ▸ hr'')
        obtain ⟨body, rfl⟩ := update_of_altered hr hr'' hne'
        exact ⟨body, List.mem_cons_self⟩

/-- A delete of what nothing kept at first goes through, whatever is changed before. -/
theorem Thinned.removed (h : Thinned altered s t) (hs : s.WellFormed)
    (hfail : t.failures = s.failures) (hcs : ∀ c ∈ cs, c.Mild altered domain) {role : Role}
    {k : Address} (hmem : .delete role k ∈ cs)
    (haccess : requireAccess p k.kind k.parents = .ok ()) {r : Resource}
    (hr : s.find? k = some r) (ho : s.obstacle? k r = none) :
    (Change.applyAll p cs t).find? k = none := by
  induction cs generalizing t with
  | nil => cases hmem
  | cons c cs ih =>
    have hc := hcs c List.mem_cons_self
    have hrest : ∀ c ∈ cs, c.Mild altered domain := fun c hc => hcs c (List.mem_cons_of_mem _ hc)
    rcases List.mem_cons.1 hmem with rfl | hmem
    · rw [applyAll_cons]
      refine find?_applyAll_none ?_
      cases hr' : t.find? k with
      | none => exact find?_apply_none hr'
      | some r' =>
        have hsame : t.deleteFailures = s.deleteFailures := congrArg Prod.fst hfail
        have ho' := h.obstacle?_eq_none hs (fun hf => hsame ▸ hf) hr hr' ho
        simp [Change.apply, delete_of_obstacle?_none haccess hr' ho', find?]
    · exact ih (h.apply hs hc) ((failures_apply p c t).trans hfail) hrest hmem

/-- The second store is what is left of the first after some changes.  Nothing is left inside an
object that is gone, and other policy domains are untouched. -/
structure Remains (altered : List Kind) (domain : String) (s t : Store) : Prop where
  thinned : Thinned altered s t
  listFailures : t.listFailures = s.listFailures
  hollow : ∀ {outer inner : Address}, s.find? outer ≠ none → t.find? outer = none →
    outer.contains inner = true → t.find? inner = none
  elsewhere : ∀ {k : Address}, k.kind.inDomain = true → k.parents ≠ [domain] →
    t.find? k = s.find? k

namespace Remains

theorem refl (hs : s.WellFormed) : Remains altered domain s s :=
  ⟨.refl hs, rfl, fun hout hgone => absurd hgone hout, fun _ _ => rfl⟩

theorem mono {more : List Kind} (h : Remains altered domain s t) (hm : altered ⊆ more) :
    Remains more domain s t :=
  ⟨h.thinned.mono hm, h.listFailures, h.hollow, h.elsewhere⟩

theorem apply (h : Remains altered domain s t) (hs : s.WellFormed) (hc : c.Mild altered domain) :
    Remains altered domain s (c.apply p t) where
  thinned := h.thinned.apply hs hc
  listFailures := (congrArg (·.2.2) (failures_apply p c t)).trans h.listFailures
  hollow {outer inner} hout hgone hcontains := by
    cases hr : t.find? outer with
    | none => exact find?_apply_none (h.hollow hout hr hcontains)
    | some r =>
      -- the delete of `outer` was let pass because nothing was inside
      obtain ⟨role, rfl, ho⟩ := delete_of_removed hr hgone
      have hempty := childOf?_eq_none.1 (obstacle?_eq_none.1 ho).2.1
      refine find?_apply_none ?_
      cases hi : t.find? inner with
      | none => rfl
      | some ri =>
        have := hempty (inner, ri) ((h.thinned.wellFormed hs).mem_iff.2 hi)
        rw [hcontains] at this
        cases this
  elsewhere {k} hk hp := by
    have hne : k ≠ c.target := fun e => hp (e ▸ hc.place (e ▸ hk))
    exact (find?_apply_of_ne hne).trans (h.elsewhere hk hp)

theorem applyAll (h : Remains altered domain s t) (hs : s.WellFormed)
    (hcs : ∀ c ∈ cs, c.Mild altered domain) :
    Remains altered domain s (Change.applyAll p cs t) := by
  induction cs generalizing t with
  | nil => exact h
  | cons c cs ih =>
    exact ih (h.apply hs (hcs c List.mem_cons_self)) fun c hc => hcs c (List.mem_cons_of_mem _ hc)

end Remains

end Store

end NetSweep
