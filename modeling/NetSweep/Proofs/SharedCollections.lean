import NetSweep.Proofs.PagedLists

/-!
# Kinds of one collection

Several kinds may live in one collection.  A list of such a kind asks for all that the collection
holds and keeps the objects with the kind's type name.  Kinds have a collection in common just if
its URL is the same for them, and no two have the same type name: so their lists divide what is
there, and leave out the objects of other types and of none.
-/

namespace NetSweep

open Http Url

/-! ## Places in a list -/

theorem filterMap_findIdxs {α : Type} (q : α → Bool) (as : List α) :
    (as.findIdxs q).filterMap (as[·]?) = as.filter q := by
  induction as with
  | nil => rfl
  | cons a as ih =>
    have hlater : (as.findIdxs q (0 + 1)).filterMap ((a :: as)[·]?) = as.filter q := by
      rw [List.findIdxs_start, List.filterMap_map, ← ih]
      rfl
    rw [List.findIdxs_cons, List.filter_cons]
    split
    · exact congrArg (a :: ·) hlater
    · exact hlater

/-- Places that divide a list among kinds: each has, in order, those of the objects with its type
name, and so no two have one together, and all of them those with one of their type names. -/
structure Divides (content : List Resource) (here : Kind → Prop) (places : Kind → List Nat) :
    Prop where
  ordered : ∀ kind, here kind → (places kind).Pairwise (· < ·)
  typed : ∀ kind, here kind → ∀ i, i ∈ places kind ↔
    ∃ r, content[i]? = some r ∧ r.resourceType = some kind.backendType
  disjoint : ∀ kind other, here kind → here other → kind ≠ other →
    (places kind).Disjoint (places other)
  together : ∀ i, (∃ kind, here kind ∧ i ∈ places kind) ↔
    ∃ r, content[i]? = some r ∧ ∃ kind, here kind ∧ r.resourceType = some kind.backendType

namespace Kind

variable {kind other : Kind} {content : List Resource}

def keeps (kind : Kind) (r : Resource) : Bool :=
  !kind.sharesCollection || r.resourceType == some kind.backendType

def places (content : List Resource) (kind : Kind) : List Nat := content.findIdxs kind.keeps

theorem mem_places {i : Nat} :
    i ∈ kind.places content ↔ ∃ r, content[i]? = some r ∧ kind.keeps r = true := by
  simp only [places, List.mem_findIdxs_iff_exists_getElem_pos, List.getElem?_eq_some_iff]
  grind

theorem mem_places_of_shares (h : kind.sharesCollection = true) {i : Nat} :
    i ∈ kind.places content ↔
      ∃ r, content[i]? = some r ∧ r.resourceType = some kind.backendType := by
  simp only [mem_places, keeps, h, Bool.not_true, Bool.false_or, beq_iff_eq]

/-- The kinds of a collection divide what it holds, if each shares it. -/
theorem divides_places {here : Kind → Prop} (h : ∀ kind, here kind → kind.sharesCollection = true) :
    Divides content here (places content) where
  ordered _ _ := List.pairwise_findIdxs
  typed kind hkind _ := mem_places_of_shares (h kind hkind)
  disjoint kind other hkind hother hne := by
    intro i hi hi'
    obtain ⟨r, hr, htype⟩ := (mem_places_of_shares (h kind hkind)).1 hi
    obtain ⟨r', hr', htype'⟩ := (mem_places_of_shares (h other hother)).1 hi'
    obtain rfl := Option.some.inj (hr.symm.trans hr')
    exact hne (backendType_injective (Option.some.inj (htype.symm.trans htype')))
  together i := by
    constructor
    · rintro ⟨kind, hkind, hi⟩
      obtain ⟨r, hr, htype⟩ := (mem_places_of_shares (h kind hkind)).1 hi
      exact ⟨r, hr, kind, hkind, htype⟩
    · rintro ⟨r, hr, kind, hkind, htype⟩
      exact ⟨kind, hkind, (mem_places_of_shares (h kind hkind)).2 ⟨r, hr, htype⟩⟩

end Kind

/-! ## Kinds with the same URL -/

namespace PathSegment

/-- Whether patterns have the same length, and the same text wherever both have one. -/
def fits : List PathSegment → List PathSegment → Bool
  | [], [] => true
  | .fixed text :: rest, .fixed text' :: rest' => text == text' && fits rest rest'
  | _ :: rest, _ :: rest' => fits rest rest'
  | _, _ => false

theorem fits_of_fill {pattern pattern' : List PathSegment} {ids ids' : List String}
    (h : Kind.fill pattern ids = Kind.fill pattern' ids') : fits pattern pattern' = true := by
  have htail : ∀ (segment : PathSegment) (rest : List PathSegment) (ids : List String),
      ∃ ids', (Kind.fill (segment :: rest) ids).tail = Kind.fill rest ids' := by
    rintro (text | _) rest ids
    · exact ⟨ids, rfl⟩
    · exact ⟨ids.tail, rfl⟩
  induction pattern generalizing pattern' ids ids' with
  | nil =>
    cases pattern' with
    | nil => rfl
    | cons segment' rest' => cases segment' <;> cases h
  | cons segment rest ih =>
    cases pattern' with
    | nil => cases segment <;> cases h
    | cons segment' rest' =>
      obtain ⟨left, hleft⟩ := htail segment rest ids
      obtain ⟨left', hleft'⟩ := htail segment' rest' ids'
      have hrest : fits rest rest' = true := ih (by rw [← hleft, ← hleft', h])
      cases segment with
      | parent => exact hrest
      | fixed text =>
        cases segment' with
        | parent => exact hrest
        | fixed text' =>
          have hsame : text = text' := (List.cons.inj h).1
          rw [fits, hsame, beq_self_eq_true, Bool.true_and, hrest]

end PathSegment

namespace Kind

variable {kind other : Kind}

theorem collection_eq_of_fits (h : PathSegment.fits kind.collection other.collection = true) :
    kind.collection = other.collection := by
  have hall : ∀ kind ∈ all, ∀ other ∈ all,
      PathSegment.fits kind.collection other.collection = true →
        kind.collection = other.collection := by
    decide +kernel
  exact hall kind (mem_all kind) other (mem_all other) h

theorem api_eq_of_collection (h : kind.collection = other.collection) : kind.api = other.api := by
  have hall : ∀ kind ∈ all, ∀ other ∈ all, kind.collection = other.collection →
      kind.api = other.api := by
    decide +kernel
  exact hall kind (mem_all kind) other (mem_all other) h

theorem sharesCollection_iff : kind.sharesCollection = true ↔
    ∃ other, other ≠ kind ∧ other.collection = kind.collection := by
  simp only [sharesCollection, List.any_eq_true, decide_eq_true_eq, mem_all, true_and]

end Kind

namespace Manager

variable {σ : Type} {m : Manager σ} {kind other : Kind} {parents parents' : List String}
  {url : String} {u : Url} {s : σ} {content : List Resource}

def ListsAt (m : Manager σ) (url : String) (kind : Kind) : Prop :=
  ∃ parents, m.collectionUrl kind parents = .ok url

theorem slash_not_mem_encodeId (id : String) : '/' ∉ (encodeId id).toList := by
  intro hmem
  rcases tame_or_backslash hmem with htame | ⟨hother, -⟩
  · exact htame.slash rfl
  · exact absurd hother (by decide)

theorem slash_not_mem_fill {p : String}
    (h : p ∈ Kind.fill kind.collection (parents.map encodeId)) : '/' ∉ p.toList := by
  rcases Kind.mem_fill h with hfixed | hid | rfl
  · rw [← (Kind.fixed_of_mem (List.mem_append_left _ hfixed)).kept]
    exact slash_not_mem_encodeId p
  · obtain ⟨id, -, rfl⟩ := List.mem_map.1 hid
    exact slash_not_mem_encodeId id
  · exact List.not_mem_nil

def pieces (kind : Kind) (parents : List String) : List String :=
  kind.api.segments.map encodeId ++ Kind.fill kind.collection (parents.map encodeId)

theorem slash_not_mem_pieces : ∀ p ∈ pieces kind parents, '/' ∉ p.toList := by
  refine List.forall_mem_append.2 ⟨fun p hp => ?_, fun p => slash_not_mem_fill⟩
  obtain ⟨id, -, rfl⟩ := List.mem_map.1 hp
  exact slash_not_mem_encodeId id

theorem collectionUrl_pieces (h : m.collectionUrl kind parents = .ok url) :
    url = m.base ++ pathText (.segments (pieces kind parents)) := by
  rw [(collectionUrl_eq h).1, Api.root_eq, String.append_assoc, ← pathText_append, pieces]

/-- The two APIs differ in the first piece already. -/
theorem fill_of_pieces (h : pieces kind parents = pieces other parents') :
    Kind.fill kind.collection (parents.map encodeId) =
      Kind.fill other.collection (parents'.map encodeId) := by
  rw [pieces, pieces] at h
  cases hapi : kind.api <;> cases hapi' : other.api <;> rw [hapi, hapi'] at h
  case policy.policy => exact List.append_cancel_left h
  case manager.manager => exact List.append_cancel_left h
  all_goals exact absurd (List.cons.inj h).1 (by decide)

/-- A collection is told by its URL. -/
theorem collection_of_url (h : m.collectionUrl kind parents = .ok url)
    (h' : m.collectionUrl other parents' = .ok url) : kind.collection = other.collection := by
  have heq := (collectionUrl_pieces h).symm.trans (collectionUrl_pieces h')
  rw [String.append_right_inj] at heq
  have hpieces := pathText_injective slash_not_mem_pieces slash_not_mem_pieces heq
  exact Kind.collection_eq_of_fits (PathSegment.fits_of_fill (fill_of_pieces hpieces))

theorem requireAccess_eq_ok {passthrough : Bool} :
    requireAccess passthrough kind parents = .ok () ↔
      ¬(kind.api = .manager ∧ ¬passthrough) ∧ parents.length = kind.parentCount := by
  rw [requireAccess, requireApi]
  by_cases hapi : kind.api = .manager ∧ ¬passthrough
  · rw [if_pos hapi]
    exact ⟨nofun, fun h => absurd hapi h.1⟩
  · rw [if_neg hapi]
    dsimp only
    split
    · rename_i hlength
      exact ⟨fun _ => ⟨hapi, hlength⟩, fun _ => rfl⟩
    · rename_i hlength
      exact ⟨nofun, fun h => absurd h.2 hlength⟩

theorem collectionUrl_congr (hsame : other.collection = kind.collection)
    (h : m.collectionUrl kind parents = .ok url) : m.collectionUrl other parents = .ok url := by
  have hapi : other.api = kind.api := Kind.api_eq_of_collection hsame
  have hcount : other.parentCount = kind.parentCount := by rw [Kind.parentCount, hsame]; rfl
  rw [collectionUrl] at h ⊢
  cases haccess : requireAccess m.allowPassthrough kind parents with
  | error e =>
    rw [haccess] at h
    cases h
  | ok _ =>
    have haccess' : requireAccess m.allowPassthrough other parents = .ok () := by
      rw [requireAccess_eq_ok, hapi, hcount]
      exact requireAccess_eq_ok.1 haccess
    rw [haccess] at h
    rw [haccess', hapi, collectionPath, hsame]
    exact h

/-- A kind shares its collection just if another is listed at the same URL. -/
theorem sharesCollection_iff_listsAt (h : m.collectionUrl kind parents = .ok url) :
    kind.sharesCollection = true ↔ ∃ other, m.ListsAt url other ∧ other ≠ kind := by
  rw [Kind.sharesCollection_iff]
  constructor
  · rintro ⟨other, hne, hsame⟩
    exact ⟨other, ⟨parents, collectionUrl_congr hsame h⟩, hne⟩
  · rintro ⟨other, ⟨parents', h'⟩, hne⟩
    exact ⟨other, hne, collection_of_url h' h⟩

/-! ## Lists -/

theorem ofKind_eq_filter (kind : Kind) (content : List Resource) :
    ofKind kind content = content.filter kind.keeps := by
  cases hshares : kind.sharesCollection with
  | false =>
    have hall : kind.keeps = fun _ => true := by
      funext r
      rw [Kind.keeps, hshares]
      rfl
    rw [ofKind, hshares, if_neg Bool.false_ne_true, hall, List.filter_true]
  | true =>
    rw [ofKind, hshares, if_pos rfl]
    refine List.filter_congr fun r _ => ?_
    rw [Kind.keeps, hshares, Bool.not_true, Bool.false_or, beq_eq_decide]

/-- Asked for one page after the other, the network responds with pages up to a last one, as many
as the client allows, that hold the content.  For which kind it is asked shows in errors alone. -/
def PagesOut (m : Manager σ) (u : Url) (s : σ) (content : List Resource) : Prop :=
  ∃ kind id ps p, m.Reads kind id u [] none s (ps ++ [p]) ∧ Unended none ps ∧
    p.Final (cursorAfter none ps) ∧ ps.length < m.patience.limit ∧
    (ps ++ [p]).flatMap Page.results = content

theorem list_of_pagesOut (haddress : m.collectionUrl kind parents = .ok url)
    (hurl : target url = .ok u) (h : m.PagesOut u s content) :
    (m.recorded.list kind parents (s, [])).1 = .ok (content.filter kind.keeps) := by
  obtain ⟨_, _, ps, p, hreads, hunended, hfinal, hlimit, rfl⟩ := h
  have hcollection : m.recorded.collectionUrl kind parents = m.collectionUrl kind parents := rfl
  have hparts : m.recorded.patience = m.patience := rfl
  have hlist : m.recorded.list? kind parents (s, []) =
      (some (.ok (ofKind kind ((ps ++ [p]).flatMap Page.results))),
        m.network.after (m.asked u [] none (ps ++ [p])) s,
        [] ++ m.asked u [] none (ps ++ [p])) := by
    rw [list?, hcollection, haddress]
    dsimp only
    rw [hparts, pages?_of_reads hurl hreads.congr hunended hfinal hlimit []]
    rfl
  rw [list_of_list? m.recorded hlist, ofKind_eq_filter]

/-- The lists of the kinds at one URL, asked for whenever the content is given at it in pages, give
some of the content, in order.  If there are several kinds, they divide the content by their type
names; if there is one, its list is the content. -/
theorem kinds_divide_collection {σ : Type} (m : Manager σ) (url : String) (u : Url)
    (content : List Resource) (hurl : target url = .ok u) :
    ∃ places : Kind → List Nat,
      (∀ kind parents s, m.collectionUrl kind parents = .ok url → m.PagesOut u s content →
        ∃ found, (m.recorded.list kind parents (s, [])).1 = .ok found ∧
          found = (places kind).filterMap (content[·]?) ∧ found.Sublist content ∧
          ((∀ other, m.ListsAt url other → other = kind) → found = content)) ∧
      ((∃ kind other, m.ListsAt url kind ∧ m.ListsAt url other ∧ kind ≠ other) →
        Divides content (m.ListsAt url) places) := by
  refine ⟨Kind.places content, ?_, ?_⟩
  · intro kind parents s haddress hpages
    refine ⟨_, list_of_pagesOut haddress hurl hpages, (filterMap_findIdxs _ _).symm,
      List.filter_sublist, fun halone => ?_⟩
    have hshares : kind.sharesCollection = false := by
      rw [Bool.eq_false_iff, Ne, sharesCollection_iff_listsAt haddress]
      rintro ⟨other, hother, hne⟩
      exact hne (halone other hother)
    exact List.filter_eq_self.2 fun r _ => by rw [Kind.keeps, hshares, Bool.not_false, Bool.true_or]
  · rintro ⟨first, second, hfirst, hsecond, hne⟩
    refine Kind.divides_places fun kind hkind => ?_
    obtain ⟨parents, haddress⟩ := hkind
    rw [sharesCollection_iff_listsAt haddress]
    by_cases hsame : first = kind
    · exact ⟨second, hsecond, fun h => hne (hsame.trans h.symm)⟩
    · exact ⟨first, hfirst, hsame⟩

def profilePages : List Page :=
  [{ results := [(Resource.bare "h").withType "LBHttpProfile", .bare "u"], cursor := some "x" },
    { results := [(Resource.bare "o").withType "X", (Resource.bare "t").withType "LBFastTcpProfile"]
      cursor := none }]

def profileScript : Script :=
  { rules := [
      responding ("\x7b\"results\":[\x7b\"id\":\"h\",\"resource_type\":\"LBHttpProfile\"\x7d," ++
        "\x7b\"id\":\"u\"\x7d],\"cursor\":\"x\"\x7d"),
      responding ("\x7b\"results\":[\x7b\"id\":\"o\",\"resource_type\":\"X\"\x7d," ++
        "\x7b\"id\":\"t\",\"resource_type\":\"LBFastTcpProfile\"\x7d]\x7d")]
    default := .missing }

/-- The client of the script gets the pages at either of two URLs. -/
theorem profiles_pagedOut : ∀ text ∈ ["http://nsx/policy/api/v1/infra/lb-app-profiles",
    "http://nsx/policy/api/v1/infra/segments"],
    ∃ u, target text = .ok u ∧
      patient.PagesOut u profileScript (profilePages.flatMap Page.results) := by
  intro text htext
  have hany : (target text).toOption.any (fun u =>
      decide (∀ r ∈ patient.asked u [] none profilePages, r.Sendable) &&
      decide (List.zipWith (pageOf .segment "") (patient.asked u [] none profilePages)
        (patient.network.responses (patient.asked u [] none profilePages) profileScript) =
          profilePages.map .ok)) = true := by
    revert htext
    revert text
    decide +kernel
  obtain ⟨u, hurl, htest⟩ := exists_url_of_any hany
  obtain ⟨hsendable, hresponses⟩ := Bool.and_eq_true_iff.1 htest
  exact ⟨u, hurl, .segment, "", profilePages.take 1, profilePages[1],
    ⟨of_decide_eq_true hsendable, of_decide_eq_true hresponses⟩, by decide, by decide, by decide,
    rfl⟩

/-- The lists of the three kinds of application profile divide the pages; a list of segments gives
all that is there. -/
theorem profiles_divided :
    (∃ places : Kind → List Nat,
      (∀ kind ∈ [Kind.lbHttpProfile, .lbFastTcpProfile, .lbFastUdpProfile],
        ∃ found, (patient.recorded.list kind [] (profileScript, [])).1 = .ok found ∧
          found = (places kind).filterMap ((profilePages.flatMap Page.results)[·]?)) ∧
      Divides (profilePages.flatMap Page.results)
        (patient.ListsAt "http://nsx/policy/api/v1/infra/lb-app-profiles") places) ∧
    (patient.recorded.list .segment [] (profileScript, [])).1 =
      .ok (profilePages.flatMap Page.results) ∧
    (patient.recorded.list .lbHttpProfile [] (profileScript, [])).1 =
      .ok [(Resource.bare "h").withType "LBHttpProfile"] := by
  have haddress : ∀ kind ∈ [Kind.lbHttpProfile, .lbFastTcpProfile, .lbFastUdpProfile],
      patient.collectionUrl kind [] = .ok "http://nsx/policy/api/v1/infra/lb-app-profiles" := by
    decide +kernel
  refine ⟨?_, ?_, ?_⟩
  · obtain ⟨u, hurl, hpages⟩ := profiles_pagedOut _ List.mem_cons_self
    obtain ⟨places, hlists, hdivides⟩ := kinds_divide_collection patient _ u _ hurl
    refine ⟨places, fun kind hkind => ?_, hdivides ⟨.lbHttpProfile, .lbFastTcpProfile,
      ⟨[], haddress _ (by decide)⟩, ⟨[], haddress _ (by decide)⟩, by decide⟩⟩
    obtain ⟨found, hlist, hfound, -⟩ := hlists kind [] _ (haddress kind hkind) hpages
    exact ⟨found, hlist, hfound⟩
  · obtain ⟨u, hurl, hpages⟩ := profiles_pagedOut _ (List.mem_cons_of_mem _ List.mem_cons_self)
    obtain ⟨places, hlists, -⟩ := kinds_divide_collection patient _ u _ hurl
    have hsegments : patient.collectionUrl .segment [] =
        .ok "http://nsx/policy/api/v1/infra/segments" := by decide +kernel
    obtain ⟨found, hlist, -, -, hall⟩ := hlists .segment [] _ hsegments hpages
    have halone : ∀ other ∈ Kind.all, other.collection = Kind.segment.collection →
        other = .segment := by decide +kernel
    rw [hlist, hall fun other hother => ?_]
    obtain ⟨parents, hother⟩ := hother
    exact halone other (Kind.mem_all other) (collection_of_url hother hsegments)
  · obtain ⟨u, hurl, hpages⟩ := profiles_pagedOut _ List.mem_cons_self
    rw [list_of_pagesOut (haddress _ (by decide)) hurl hpages]
    decide +kernel

end Manager

end NetSweep
