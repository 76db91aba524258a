import NetSweep.Proofs.CarriedOut
import NetSweep.Proofs.PagedLists
import NetSweep.Proofs.QueryTexts

/-!
# What a search finds

A query asks for the scope of a predicate and for its value in terms of their own, and each term
holds by itself of any tag that an object has.  A search service therefore finds the objects with
the scope on one tag and the value on another, and the client gives all that is found.  A store
looks for both on one tag: it gives those of the objects found that have every tag asked for.
-/

namespace NetSweep

open Http

/-! ## Scopes and values apart -/

namespace Resource

variable {r : Resource} {p : TagPredicate} {ps : List TagPredicate}

/-- Whether some tag has the predicate's scope, and some tag its value: maybe another one. -/
def hasApart (r : Resource) (p : TagPredicate) : Bool :=
  r.tags.any (·.scope == p.scope) && p.tag.all fun value => r.tags.any (·.tag == value)

def hasAllApart (r : Resource) (ps : List TagPredicate) : Bool := ps.all r.hasApart

theorem hasApart_of_hasTag (h : r.hasTag p = true) : r.hasApart p = true := by
  obtain ⟨t, ht, hholds⟩ := List.any_eq_true.1 h
  obtain ⟨hscope, hvalue⟩ := Bool.and_eq_true_iff.1 hholds
  rw [hasApart, Bool.and_eq_true_iff]
  refine ⟨List.any_eq_true.2 ⟨t, ht, hscope⟩, ?_⟩
  cases hp : p.tag with
  | none => rfl
  | some value =>
    rw [hp] at hvalue
    have hsame : (t.tag == value) = true := by
      rw [beq_iff_eq]
      exact (beq_iff_eq.1 hvalue).symm
    exact List.any_eq_true.2 ⟨t, ht, hsame⟩

theorem hasAllApart_of_hasAllTags (h : r.hasAllTags ps = true) : r.hasAllApart ps = true :=
  List.all_eq_true.2 fun p hp => hasApart_of_hasTag (List.all_eq_true.1 h p hp)

/-- A predicate that asks for a scope alone has nothing to be kept apart. -/
theorem hasTag_eq_hasApart (h : p.tag = none) : r.hasTag p = r.hasApart p := by
  have hholds : p.holds = fun t : Tag => t.scope == p.scope := by
    funext t
    rw [TagPredicate.holds, h, Bool.and_true]
  rw [hasTag, hasApart, hholds, h, Option.all_none, Bool.and_true]

theorem hasAllTags_eq_hasAllApart (h : ∀ p ∈ ps, p.tag = none) :
    r.hasAllTags ps = r.hasAllApart ps := by
  rw [Bool.eq_iff_iff, hasAllTags, hasAllApart, List.all_eq_true, List.all_eq_true]
  exact forall₂_congr fun p hp => by rw [hasTag_eq_hasApart (h p hp)]

/-- An object of a kind that has the scopes and the values of predicates on different tags: the
scopes with one value, the values in one scope. -/
def scattered (kind : Kind) (scope value : String) (ps : List TagPredicate) : Resource :=
  { (bare "x").withType kind.backendType with
    tags := ps.flatMap fun p =>
      { scope := p.scope, tag := value } :: p.tag.toList.map fun tag => { scope, tag } }

theorem scattered_hasAllApart (kind : Kind) (scope value : String) (ps : List TagPredicate) :
    (scattered kind scope value ps).hasAllApart ps = true := by
  refine List.all_eq_true.2 fun p hp => ?_
  have htags : ∀ t ∈ ({ scope := p.scope, tag := value } : Tag) ::
      p.tag.toList.map fun tag => { scope, tag }, t ∈ (scattered kind scope value ps).tags :=
    fun t ht => List.mem_flatMap.2 ⟨p, hp, ht⟩
  rw [hasApart, Bool.and_eq_true_iff]
  refine ⟨List.any_eq_true.2 ⟨_, htags _ List.mem_cons_self, beq_self_eq_true _⟩, ?_⟩
  cases hvalue : p.tag with
  | none => rfl
  | some wanted =>
    have hmem : ({ scope, tag := wanted } : Tag) ∈ (scattered kind scope value ps).tags :=
      htags _ (List.mem_cons_of_mem _ (List.mem_map.2 ⟨wanted, by simp [hvalue], rfl⟩))
    exact List.any_eq_true.2 ⟨_, hmem, beq_self_eq_true _⟩

theorem scattered_lacks {kind : Kind} {scope value wanted : String} (hp : p.tag = some wanted)
    (hscope : scope ≠ p.scope) (hvalue : value ≠ wanted) :
    (scattered kind scope value ps).hasTag p = false := by
  rw [hasTag, List.any_eq_false]
  intro t ht hholds
  obtain ⟨hsame, hwanted⟩ := Bool.and_eq_true_iff.1 hholds
  rw [hp] at hwanted
  obtain ⟨q, -, hq⟩ := List.mem_flatMap.1 ht
  rcases List.mem_cons.1 hq with rfl | hother
  · exact hvalue (beq_iff_eq.1 hwanted).symm
  · obtain ⟨tag, -, rfl⟩ := List.mem_map.1 hother
    exact hscope (beq_iff_eq.1 hsame)

end Resource

/-! ## Queries -/

namespace Search

def asksFor (ts : List Term) (r : Resource) : Bool := ts.all (Term.holds r)

theorem asksFor_predicateTerms (p : TagPredicate) (r : Resource) :
    asksFor (predicateTerms p) r = r.hasApart p := by
  rw [predicateTerms, asksFor, List.all_cons, Resource.hasApart, List.all_map]
  cases p.tag with
  | none => rfl
  | some value =>
    show (_ && (_ && true)) = _
    rw [Bool.and_true]
    rfl

theorem asksFor_terms (kind : Kind) (tags : List TagPredicate) (r : Resource) :
    asksFor (terms kind tags) r =
      ((r.resourceType == some kind.backendType) && r.hasAllApart tags) := by
  have htags : (tags.flatMap predicateTerms).all (Term.holds r) = r.hasAllApart tags := by
    rw [List.all_flatMap]
    exact List.all_congr rfl fun p => asksFor_predicateTerms p r
  rw [asksFor, terms, List.all_cons, htags]
  rfl

/-- The objects of a kind on whose tags every scope and every value is found that is asked for. -/
def foundApart (kind : Kind) (tags : List TagPredicate) (objects : List Resource) :
    List Resource :=
  objects.filter fun r => (r.resourceType == some kind.backendType) && r.hasAllApart tags

theorem filter_asksFor_terms (kind : Kind) (tags : List TagPredicate) (objects : List Resource) :
    objects.filter (asksFor (terms kind tags)) = foundApart kind tags objects :=
  List.filter_congr fun r _ => asksFor_terms kind tags r

end Search

/-! ## Services -/

namespace Manager

/-- A search service: the objects that it holds, and for the terms of each query the pages in which
it gives those that are asked for. -/
structure SearchService where
  objects : List Resource
  pages : List Search.Term → List Page
  /-- the last page, and no other, ends the search -/
  ends : ∀ ts, ∃ ps p, pages ts = ps ++ [p] ∧ Unended none ps ∧
    p.Final (cursorAfter none ps)
  /-- the pages hold what the query asks for -/
  results : ∀ ts, (pages ts).flatMap Page.results = objects.filter (Search.asksFor ts)

def SearchService.whole (objects : List Resource) : SearchService where
  objects := objects
  pages ts := [{ results := objects.filter (Search.asksFor ts), cursor := none }]
  ends _ := ⟨[], _, rfl, nofun, .inr (.inl rfl)⟩
  results _ := List.append_nil _

variable {σ : Type} {m : Manager σ} {kind : Kind} {url : String} {u : Url}
  {service : SearchService} {tags : List TagPredicate}

/-- Asked for the pages of a query one after the other, the network responds with those of a
service. -/
def Offers (m : Manager σ) (kind : Kind) (u : Url) (service : SearchService) : Prop :=
  ∀ text ts s, Search.terms? text = some ts →
    List.zipWith (pageOf kind "") (m.asked u [("query", text)] none (service.pages ts))
      (m.network.responses (m.asked u [("query", text)] none (service.pages ts)) s) =
        (service.pages ts).map .ok

def searched (m : Manager σ) (kind : Kind) (u : Url) (tags : List TagPredicate)
    (service : SearchService) : List Request :=
  m.asked u [("query", Search.query kind tags)] none (service.pages (Search.terms kind tags))

/-- The client gives what the service finds. -/
theorem search_offered (haddress : m.searchUrl kind = .ok url) (hurl : target url = .ok u)
    (hoffers : m.Offers kind u service)
    (hsendable : ∀ r ∈ m.searched kind u tags service, r.Sendable)
    (hlimit : (service.pages (Search.terms kind tags)).length ≤ m.patience.limit) (s : σ) :
    m.recorded.search kind tags (s, []) =
      (.ok (Search.foundApart kind tags service.objects),
        m.network.after (m.searched kind u tags service) s, m.searched kind u tags service) := by
  have hreads : m.Reads kind "" u [("query", Search.query kind tags)] none s
      (service.pages (Search.terms kind tags)) :=
    ⟨hsendable, hoffers _ _ s (Search.terms?_query kind tags)⟩
  have hresults := service.results (Search.terms kind tags)
  rw [Search.filter_asksFor_terms] at hresults
  obtain ⟨ps, p, hpages, hunended, hfinal⟩ := service.ends (Search.terms kind tags)
  rw [searched]
  rw [hpages] at hreads hlimit hresults ⊢
  rw [List.length_append, List.length_singleton] at hlimit
  obtain ⟨haccess, rfl⟩ := searchUrl_eq_ok haddress
  have hrun := pages?_of_reads hurl hreads hunended hfinal hlimit []
  have hparts : m.recorded.base = m.base ∧ m.recorded.allowPassthrough = m.allowPassthrough ∧
      m.recorded.patience = m.patience := ⟨rfl, rfl, rfl⟩
  refine search_of_search? m.recorded ?_
  rw [search?, hparts.1, hparts.2.1, hparts.2.2, haccess]
  dsimp only
  rw [hrun, hresults]
  rfl

end Manager

/-! ## Stores -/

theorem perm_filter_iff {α : Type} {kept found : List α} {q : α → Bool}
    (h : kept.Perm (found.filter q)) : kept.Perm found ↔ ∀ a ∈ found, q a = true := by
  constructor
  · intro hall
    exact List.length_filter_eq_length_iff.1 (h.symm.trans hall).length_eq
  · intro hall
    rwa [List.filter_eq_self.2 hall] at h

namespace Store

variable {s : Store} {objects : List Resource} {kind : Kind} {p : Bool}

/-- The objects are those of the store, each with the type of its kind. -/
structure Mirrors (s : Store) (objects : List Resource) : Prop where
  same : objects.Perm (s.objects.map Prod.snd)
  typed : ∀ o ∈ s.objects, o.2.resourceType = some o.1.kind.backendType

/-- Of the objects that a query asks for, a search of the store gives those with all tags. -/
theorem Mirrors.search_perm (h : s.Mirrors objects) (haccess : requireApi p kind = .ok ())
    (hfine : Assoc.find? kind s.listFailures = none) (tags : List TagPredicate) :
    ∃ kept, s.search p kind tags = .ok kept ∧
      kept.Perm ((Search.foundApart kind tags objects).filter (·.hasAllTags tags)) := by
  refine ⟨_, search_unfailing haccess hfine, ?_⟩
  have hfound : ∀ o ∈ s.objects, decide (o.1.kind = kind ∧ o.2.hasAllTags tags = true) =
      (o.2.hasAllTags tags &&
        ((o.2.resourceType == some kind.backendType) && o.2.hasAllApart tags)) := by
    intro o ho
    have hkind : o.2.resourceType = some kind.backendType ↔ o.1.kind = kind := by
      rw [h.typed o ho, Option.some_inj]
      exact ⟨Kind.backendType_injective, congrArg _⟩
    rw [Bool.eq_iff_iff, decide_eq_true_iff, Bool.and_eq_true_iff, Bool.and_eq_true_iff,
      beq_iff_eq, hkind]
    exact ⟨fun ⟨hsame, htags⟩ => ⟨htags, hsame, Resource.hasAllApart_of_hasAllTags htags⟩,
      fun ⟨htags, hsame, _⟩ => ⟨hsame, htags⟩⟩
  have hkept : (s.objects.filter (fun o => o.1.kind = kind ∧ o.2.hasAllTags tags)).map Prod.snd =
      (Search.foundApart kind tags (s.objects.map Prod.snd)).filter (·.hasAllTags tags) := by
    rw [Search.foundApart, List.filter_filter, List.filter_map, List.filter_congr hfound]
    rfl
  rw [hkept]
  exact ((h.same.filter _).filter _).symm

/-- A store with nothing but an object of a kind on whose tags everything is found that is asked
for, but not on one tag. -/
theorem exists_found_apart (kind : Kind) {tags : List TagPredicate} {p : TagPredicate}
    (hp : p ∈ tags) {wanted : String} (hwanted : p.tag = some wanted) :
    ∃ (store : Store) (r : Resource), store.Mirrors [r] ∧ store.listFailures = [] ∧
      r.resourceType = some kind.backendType ∧ r.hasAllApart tags = true ∧
      r.hasAllTags tags = false := by
  have hother : ∀ text : String, text ++ "x" ≠ text := fun text h => by
    have hlength := congrArg String.length h
    rw [String.length_append] at hlength
    exact absurd hlength (Nat.ne_of_gt (Nat.lt_add_of_pos_right (by decide)))
  -- the other scope and value are longer than those of `p`, so no tag has both of `p`'s
  let r := Resource.scattered kind (p.scope ++ "x") (wanted ++ "x") tags
  refine ⟨{ Store.empty with objects := [({ kind, parents := [], id := r.id }, r)] }, r,
    ⟨.refl _, ?_⟩, rfl, rfl, Resource.scattered_hasAllApart _ _ _ _, ?_⟩
  · rintro _ (_ | ⟨_, ⟨⟩⟩)
    rfl
  · refine List.all_eq_false.2 ⟨p, hp, ?_⟩
    rw [Resource.scattered_lacks hwanted (hother _) (hother _)]
    exact Bool.false_ne_true

/-- Stores give all that is found of their objects just if scopes alone are asked for. -/
theorem search_finds_all_iff (kind : Kind) (tags : List TagPredicate) :
    (∀ (s : Store) (objects : List Resource), s.Mirrors objects →
      Assoc.find? kind s.listFailures = none →
      ∃ kept, s.search true kind tags = .ok kept ∧
        kept.Perm (Search.foundApart kind tags objects)) ↔
    ∀ p ∈ tags, p.tag = none := by
  have haccess : requireApi true kind = .ok () := if_neg fun h => h.2 rfl
  constructor
  · intro hagree p hp
    cases hwanted : p.tag with
    | none => rfl
    | some wanted =>
      obtain ⟨s, r, hmirrors, hfine, htype, hapart, hlacks⟩ := exists_found_apart kind hp hwanted
      have hfine' : Assoc.find? kind s.listFailures = none := by rw [hfine]; rfl
      obtain ⟨kept, hkept, hsame⟩ := hagree s [r] hmirrors hfine'
      obtain ⟨kept', hkept', hperm⟩ := hmirrors.search_perm haccess hfine' tags
      obtain rfl := Except.ok.inj (hkept.symm.trans hkept')
      have hfound : r ∈ Search.foundApart kind tags [r] := by
        rw [Search.foundApart, List.mem_filter, htype, hapart, beq_self_eq_true]
        exact ⟨List.mem_singleton_self r, rfl⟩
      have hall := (perm_filter_iff hperm).1 hsame r hfound
      rw [hlacks] at hall
      cases hall
  · intro hnone s objects hmirrors hfine
    obtain ⟨kept, hkept, hperm⟩ := hmirrors.search_perm haccess hfine tags
    refine ⟨kept, hkept, (perm_filter_iff hperm).2 fun r hr => ?_⟩
    rw [Resource.hasAllTags_eq_hasAllApart hnone]
    exact (Bool.and_eq_true_iff.1 (List.mem_filter.1 hr).2).2

end Store

/-! ## Searches -/

namespace Manager

/-- The client gives all the objects of the kind on whose tags every scope and every value is found
that is asked for.  A store with the same objects gives those of them that have every tag, so that
the two agree on these objects just if no other is found; and they agree on all objects just if
scopes alone are asked for. -/
theorem search_finds_tags_apart (kind : Kind) (tags : List TagPredicate) :
    (∀ {σ : Type} (m : Manager σ) (url : String) (u : Url) (service : SearchService) (s : σ)
        (store : Store),
      m.searchUrl kind = .ok url → target url = .ok u → m.Offers kind u service →
      (∀ r ∈ m.searched kind u tags service, r.Sendable) →
      (service.pages (Search.terms kind tags)).length ≤ m.patience.limit →
      store.Mirrors service.objects → Assoc.find? kind store.listFailures = none →
      ∃ found kept, (m.recorded.search kind tags (s, [])).1 = .ok found ∧
        found = Search.foundApart kind tags service.objects ∧
        store.search m.allowPassthrough kind tags = .ok kept ∧
        kept.Perm (found.filter (·.hasAllTags tags)) ∧
        (kept.Perm found ↔ ∀ r ∈ found, r.hasAllTags tags = true)) ∧
    ((∀ (store : Store) (objects : List Resource), store.Mirrors objects →
        Assoc.find? kind store.listFailures = none →
        ∃ kept, store.search true kind tags = .ok kept ∧
          kept.Perm (Search.foundApart kind tags objects)) ↔
      ∀ p ∈ tags, p.tag = none) := by
  refine ⟨?_, Store.search_finds_all_iff kind tags⟩
  intro σ m url u service s store haddress hurl hoffers hsendable hlimit hmirrors hfine
  obtain ⟨kept, hkept, hperm⟩ := hmirrors.search_perm (searchUrl_eq_ok haddress).1 hfine tags
  refine ⟨_, kept, ?_, rfl, hkept, hperm, perm_filter_iff hperm⟩
  rw [search_offered haddress hurl hoffers hsendable hlimit]

def pageResponse (objects : List Resource) : Response :=
  { status := 200
    body := some (Text.utf8Bytes
      (Json.object [("results", .array (objects.map Resource.toJson))]).render) }

def searching (objects : List Resource) : Network Unit where
  send r s :=
    ((((r.url.pairs.lookup "query").bind Search.terms?).map fun ts =>
      pageResponse (objects.filter (Search.asksFor ts))), s)

def strayGroup : Resource :=
  { (Resource.bare "g").withType "Group" with
    tags := [{ scope := routerScope, tag := "r2" }, { scope := "name", tag := "r1" }] }

def straying : Manager Unit :=
  { network := searching [strayGroup], base := "http://nsx", authorization := ""
    allowPassthrough := false, patience := .upTo 1 }

theorem straying_offers {u : Url}
    (hurl : target "http://nsx/policy/api/v1/search/query" = .ok u) :
    straying.Offers .group u (.whole [strayGroup]) := by
  intro text ts s hts
  have haddress : straying.searchUrl .group = .ok "http://nsx/policy/api/v1/search/query" := by
    decide +kernel
  have hpairs : (straying.pageAt u [("query", text)] none).url.pairs = [("query", text)] := by
    rw [(straying.pageAt_eq u [("query", text)] none).2,
      pairs_of_searchUrl Url.isOrigin_nsx haddress hurl]
    rfl
  have hread : ∀ found ∈ [[], [strayGroup]],
      ((pageResponse found).json? Page.shape).bind Page.ofJson? =
        some { results := found, cursor := none } := by decide +kernel
  have hfound : [strayGroup].filter (Search.asksFor ts) ∈ [[], [strayGroup]] := by
    rw [List.filter_singleton]
    cases Search.asksFor ts strayGroup with
    | false => exact List.mem_cons_self
    | true => exact List.mem_cons_of_mem _ (List.mem_singleton_self _)
  have hresponse : (straying.network.send (straying.pageAt u [("query", text)] none) s).1 =
      some (pageResponse ([strayGroup].filter (Search.asksFor ts))) := by
    show Option.map _ (Option.bind _ _) = _
    rw [hpairs, List.lookup_cons_self, Option.bind_some, hts, Option.map_some]
  have hpage : pageOf .group "" (straying.pageAt u [("query", text)] none)
      (straying.network.send (straying.pageAt u [("query", text)] none) s).1 =
        .ok { results := [strayGroup].filter (Search.asksFor ts), cursor := none } := by
    have hsuccess : isSuccess (pageResponse ([strayGroup].filter (Search.asksFor ts))).status =
        true := by rfl
    rw [hresponse, pageOf, answerOf, if_pos hsuccess]
    dsimp only [Except.bind]
    rw [hread _ hfound]
  exact congrArg (· :: []) hpage

/-- The client finds the group of the other router, which a store does not. -/
theorem stray_group_is_found :
    (∃ found kept, (straying.recorded.search .group [.exact routerScope "r1"] ((), [])).1 =
        .ok found ∧
      found = Search.foundApart .group [.exact routerScope "r1"] [strayGroup] ∧
      Store.search false .group [.exact routerScope "r1"]
        { Store.empty with objects := [({ kind := .group, parents := ["default"], id := "g" },
          strayGroup)] } = .ok kept ∧
      kept.Perm (found.filter (·.hasAllTags [.exact routerScope "r1"])) ∧
      (kept.Perm found ↔ ∀ r ∈ found, r.hasAllTags [.exact routerScope "r1"] = true)) ∧
    (straying.recorded.search .group [.exact routerScope "r1"] ((), [])).1 = .ok [strayGroup] ∧
    strayGroup.hasAllTags [.exact routerScope "r1"] = false := by
  obtain ⟨hsearch, -⟩ := search_finds_tags_apart .group [.exact routerScope "r1"]
  obtain ⟨u, hurl, hsendable⟩ : ∃ u, target "http://nsx/policy/api/v1/search/query" = .ok u ∧
      ((straying.searched .group u [.exact routerScope "r1"] (.whole [strayGroup])).all fun r =>
        decide r.Sendable) = true := exists_url_of_any (by decide +kernel)
  have hstray := hsearch straying _ u (.whole [strayGroup]) ()
    { Store.empty with objects := [({ kind := .group, parents := ["default"], id := "g" },
      strayGroup)] } (by decide +kernel) hurl (straying_offers hurl)
    (fun r hr => of_decide_eq_true (List.all_eq_true.1 hsendable r hr)) (Nat.le_refl 1)
    ⟨.refl _, by decide⟩ rfl
  refine ⟨hstray, ?_, by decide⟩
  obtain ⟨found, -, hfound, rfl, -⟩ := hstray
  rw [hfound]
  decide

end Manager

end NetSweep
