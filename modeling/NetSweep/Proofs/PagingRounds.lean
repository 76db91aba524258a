import Mathlib.Data.List.Chain
import Mathlib.Data.List.Perm.Subperm
import Mathlib.Logic.Relation
import NetSweep.Proofs.PagedLists

/-!
# When paging ends

The client stops at a page with the cursor that was just sent, and remembers no other.  Of a
server that answers by the cursor alone, with finitely many cursors, the pages come to an end if
no cursor leads back to itself through others; then each is asked for once.  Otherwise the client
goes round for ever.
-/

namespace NetSweep

open Http Relation

/-! ## Going round -/

section Rounds

variable {α : Type} {r : α → α → Prop} {start last : α} {as : List α}

/-- From the start one comes to something that leads back to itself. -/
def ComesRound (r : α → α → Prop) (start : α) : Prop :=
  ∃ a, ReflTransGen r start a ∧ TransGen r a a

theorem pairwise_of_chain (h : (start :: as).IsChain r) : (start :: as).Pairwise (TransGen r) :=
  (h.imp fun _ _ hstep => TransGen.single hstep).pairwise

theorem reached_of_mem (h : (start :: as).IsChain r) {a : α} (ha : a ∈ start :: as) :
    ReflTransGen r start a := by
  rcases List.mem_cons.1 ha with rfl | hmem
  · exact .refl
  · exact (List.rel_of_pairwise_cons (pairwise_of_chain h) hmem).to_reflTransGen

/-- What is met on the way is met once, if nothing leads back. -/
theorem nodup_of_chain (h : (start :: as).IsChain r) (hstraight : ¬ComesRound r start) :
    (start :: as).Nodup := by
  refine (pairwise_of_chain h).imp_of_mem fun {a b} ha _ hab hsame => ?_
  subst hsame
  exact hstraight ⟨a, reached_of_mem h ha, hab⟩

/-- Where each has one successor, nothing leads back to itself on the way to an end. -/
theorem not_round_of_end (hunique : Relator.RightUnique r) {a : α} (hreach : ReflTransGen r a last)
    (hend : ∀ b, ¬r last b) : ¬TransGen r a a := by
  induction hreach using ReflTransGen.head_induction_on with
  | refl =>
    intro hround
    obtain ⟨b, hstep, -⟩ := TransGen.head'_iff.1 hround
    exact hend b hstep
  | @head a b hstep _ ih =>
    intro hround
    obtain ⟨b', hstep', hrest⟩ := TransGen.head'_iff.1 hround
    obtain rfl := hunique hstep hstep'
    exact ih (TransGen.tail' hrest hstep)

theorem not_comesRound_of_end (hunique : Relator.RightUnique r)
    (hreach : ReflTransGen r start last) (hend : ∀ b, ¬r last b) : ¬ComesRound r start := by
  rintro ⟨a, ha, hround⟩
  rcases ReflTransGen.total_of_right_unique hunique hreach ha with hafter | hbefore
  · rcases ReflTransGen.cases_head hafter with rfl | ⟨b, hstep, -⟩
    · exact not_round_of_end hunique .refl hend hround
    · exact hend b hstep
  · exact not_round_of_end hunique hbefore hend hround

end Rounds

namespace Manager

variable {σ : Type} {m : Manager σ} {kind : Kind} {id url : String} {u : Url}
  {query : List (String × String)} {answers : Option String → Option Response}
  {names : List String} {start : Option String} {s : σ} {p : Page} {ps : List Page}

/-! ## Servers that answer by the cursor -/

/-- The response to a request for a page depends on nothing but the cursor. -/
def AnswersByCursor (m : Manager σ) (u : Url) (query : List (String × String))
    (answers : Option String → Option Response) : Prop :=
  ∀ cursor s, (m.network.send (m.pageAt u query cursor) s).1 = answers cursor

def pageFrom (m : Manager σ) (kind : Kind) (id : String) (u : Url)
    (query : List (String × String)) (answers : Option String → Option Response)
    (cursor : Option String) : Answer Page :=
  if (m.pageAt u query cursor).Sendable then
    pageOf kind id (m.pageAt u query cursor) (answers cursor)
  else .error (.communication (notFetchable (m.pageAt u query cursor).url))

/-- The page of a cursor is not the last, and has another. -/
def Leads (m : Manager σ) (kind : Kind) (id : String) (u : Url) (query : List (String × String))
    (answers : Option String → Option Response) (cursor next : Option String) : Prop :=
  ∃ p, m.pageFrom kind id u query answers cursor = .ok p ∧ ¬p.Final cursor ∧ p.cursor = next

def Cursors (m : Manager σ) (kind : Kind) (id : String) (u : Url) (query : List (String × String))
    (answers : Option String → Option Response) (names : List String) : Prop :=
  ∀ cursor p next, m.pageFrom kind id u query answers cursor = .ok p → p.cursor = some next →
    next ∈ names

theorem leads_rightUnique : Relator.RightUnique (m.Leads kind id u query answers) := by
  rintro cursor _ _ ⟨p, hpage, -, rfl⟩ ⟨p', hpage', -, rfl⟩
  rw [Except.ok.inj (hpage.symm.trans hpage')]

theorem Cursors.leads (h : m.Cursors kind id u query answers names) {cursor next : Option String}
    (hleads : m.Leads kind id u query answers cursor next) : next ∈ names.map some := by
  obtain ⟨p, hpage, hgoes, rfl⟩ := hleads
  cases hcursor : p.cursor with
  | none => exact absurd (.inr (.inl hcursor)) hgoes
  | some next => exact List.mem_map_of_mem (h cursor p next hpage hcursor)

/-! ## The cursors of a run -/

theorem cursors_append (start : Option String) (ps : List Page) (p : Page) :
    cursors start (ps ++ [p]) = start :: ps.map Page.cursor := by
  induction ps generalizing start with
  | nil => rfl
  | cons first ps ih => rw [List.cons_append, cursors, ih, List.map_cons]

theorem cursors_after (start : Option String) (ps : List Page) :
    cursors start ps ++ [cursorAfter start ps] = start :: ps.map Page.cursor := by
  induction ps generalizing start with
  | nil => rfl
  | cons p ps ih => rw [cursors, cursorAfter_cons, List.cons_append, ih, List.map_cons]

/-- Each page that is not the last leads to the next. -/
theorem chain_of_reads (hfixed : m.AnswersByCursor u query answers)
    (hreads : m.Reads kind id u query start s ps) (hunended : Unended start ps) :
    (start :: ps.map Page.cursor).IsChain (m.Leads kind id u query answers) := by
  induction ps generalizing start s with
  | nil => exact .singleton start
  | cons p ps ih =>
    obtain ⟨hsendable, hpage, hrest⟩ := reads_cons.1 hreads
    obtain ⟨hgoes, hunended⟩ := unended_cons.1 hunended
    rw [hfixed] at hpage
    have hfrom : m.pageFrom kind id u query answers start = .ok p := by
      rw [pageFrom, if_pos hsendable, hpage]
    exact .cons_cons ⟨p, hfrom, hgoes, rfl⟩ (ih hrest hunended)

theorem last_of_reads (hfixed : m.AnswersByCursor u query answers)
    (hreads : m.Reads kind id u query start s (ps ++ [p])) :
    m.pageFrom kind id u query answers (cursorAfter start ps) = .ok p := by
  induction ps generalizing start s with
  | nil =>
    obtain ⟨hsendable, hpage, -⟩ := reads_cons.1 hreads
    rw [hfixed] at hpage
    show m.pageFrom kind id u query answers start = .ok p
    rw [pageFrom, if_pos hsendable, hpage]
  | cons first ps ih =>
    obtain ⟨-, -, hrest⟩ := reads_cons.1 hreads
    rw [cursorAfter_cons]
    exact ih hrest

/-- Requests on the way from the first page on, each for a cursor that the one before leads to. -/
structure Walks (m : Manager σ) (kind : Kind) (id : String) (u : Url)
    (query : List (String × String)) (answers : Option String → Option Response)
    (way sent : List (Option String)) (requests : List Request) : Prop where
  chain : (none :: way).IsChain (m.Leads kind id u query answers)
  onWay : sent.Sublist (none :: way)
  requests : requests = sent.map (m.pageAt u query)

/-- Of the cursors on a way, as many are met as the server has, and the start without one; the
others are met again. -/
theorem Walks.length_le (hcursors : m.Cursors kind id u query answers names)
    {way sent : List (Option String)} {requests : List Request}
    (h : m.Walks kind id u query answers way sent requests) (hnodup : sent.Nodup) :
    sent.length ≤ names.length + 1 := by
  have hmem : ∀ cursor ∈ sent, cursor ∈ none :: names.map some := by
    intro cursor hcursor
    rcases List.mem_cons.1 (h.onWay.subset hcursor) with rfl | hlater
    · exact List.mem_cons_self
    · obtain ⟨before, -, hleads⟩ := TransGen.tail'_iff.1
        (List.rel_of_pairwise_cons (pairwise_of_chain h.chain) hlater)
      exact List.mem_cons_of_mem _ (hcursors.leads hleads)
  have hlength := (List.subperm_of_subset hnodup hmem).length_le
  simpa only [List.length_cons, List.length_map] using hlength

/-- A run that ends goes from cursor to cursor up to one that leads on to none. -/
theorem Course.walks (hfixed : m.AnswersByCursor u query answers) {answer : Answer (List Resource)}
    {x : σ × List Request} (h : m.Course kind id u query none s answer x) :
    ∃ (ps : List Page) (sent : List (Option String)),
      m.Walks kind id u query answers (ps.map Page.cursor) sent x.2 ∧
      ∀ next, ¬m.Leads kind id u query answers (cursorAfter none ps) next := by
  cases h with
  | complete ps p reads unended final =>
    refine ⟨ps, none :: ps.map Page.cursor,
      ⟨chain_of_reads hfixed (reads_of_append reads) unended, .refl _,
        congrArg _ (cursors_append none ps p)⟩, ?_⟩
    rintro next ⟨p', hpage, hgoes, -⟩
    rw [last_of_reads hfixed reads] at hpage
    exact hgoes (Except.ok.inj hpage ▸ final)
  | failed ps e reads unended sendable fails =>
    rw [askedNext] at sendable fails
    refine ⟨ps, none :: ps.map Page.cursor,
      ⟨chain_of_reads hfixed reads unended, .refl _, ?_⟩, ?_⟩
    · rw [← cursors_after, List.map_append]
      rfl
    · rintro next ⟨p, hpage, -, -⟩
      rw [hfixed] at fails
      rw [pageFrom, if_pos sendable, fails] at hpage
      cases hpage
  | unsendable ps reads unended stays =>
    rw [askedNext] at stays
    refine ⟨ps, cursors none ps, ⟨chain_of_reads hfixed reads unended,
      cursors_after none ps ▸ List.sublist_append_left _ _, rfl⟩, ?_⟩
    rintro next ⟨p, hpage, -, -⟩
    rw [pageFrom, if_neg stays] at hpage
    cases hpage

/-- A run that ends is on a way where nothing leads back. -/
theorem Course.straight (hfixed : m.AnswersByCursor u query answers)
    {answer : Answer (List Resource)} {x : σ × List Request}
    (h : m.Course kind id u query none s answer x) :
    ¬ComesRound (m.Leads kind id u query answers) none ∧
      ∃ way sent, m.Walks kind id u query answers way sent x.2 := by
  obtain ⟨ps, sent, hwalks, hend⟩ := h.walks hfixed
  have hlast : cursorAfter none ps ∈ none :: ps.map Page.cursor :=
    cursors_after none ps ▸ List.mem_append_right _ (List.mem_singleton_self _)
  exact ⟨not_comesRound_of_end leads_rightUnique (reached_of_mem hwalks.chain hlast) hend,
    _, sent, hwalks⟩

/-- A run that has gone on for as long as it may has one more cursor to ask for. -/
theorem Limited.walks (hfixed : m.AnswersByCursor u query answers) {limit : Nat}
    {x : σ × List Request} (h : m.Limited kind id u query none s limit ps x) :
    m.Walks kind id u query answers (ps.map Page.cursor) (cursors none ps) x.2 where
  chain := chain_of_reads hfixed h.reads h.unended
  onWay := cursors_after none ps ▸ List.sublist_append_left _ _
  requests := by rw [h.state, asked]

/-- A run ends, and then nothing leads back; or it has gone on for as long as it may. -/
theorem pages?_walks (kind : Kind) (id : String) (hurl : target url = .ok u)
    (hfixed : m.AnswersByCursor u query answers) (s : σ) (limit : Nat) :
    (∃ answer x way sent,
      m.recorded.pages? kind id url query limit none (s, []) = (some answer, x) ∧
      ¬ComesRound (m.Leads kind id u query answers) none ∧
      m.Walks kind id u query answers way sent x.2) ∨
    ∃ ps x, m.recorded.pages? kind id url query limit none (s, []) = (none, x) ∧
      ps.length = limit ∧
      m.Walks kind id u query answers (ps.map Page.cursor) (cursors none ps) x.2 := by
  rcases pages?_recorded hurl limit none s [] with
    ⟨answer, x, hcourse, hrun⟩ | ⟨ps, x, hlimited, hrun⟩
  · obtain ⟨hstraight, way, sent, hwalks⟩ := hcourse.straight hfixed
    exact .inl ⟨answer, x, way, sent, hrun, hstraight, hwalks⟩
  · exact .inr ⟨ps, x, hrun, hlimited.limit, hlimited.walks hfixed⟩

/-- Where nothing leads back, a run has one more cursor to ask for than it has asked for only as
long as there are such. -/
theorem Walks.length_le_names (hcursors : m.Cursors kind id u query answers names)
    (hstraight : ¬ComesRound (m.Leads kind id u query answers) none) {requests : List Request}
    (h : m.Walks kind id u query answers (ps.map Page.cursor) (cursors none ps) requests) :
    ps.length ≤ names.length := by
  have hway : m.Walks kind id u query answers (ps.map Page.cursor) (none :: ps.map Page.cursor)
    ((none :: ps.map Page.cursor).map (m.pageAt u query)) := ⟨h.chain, .refl _, rfl⟩
  have hbound := hway.length_le hcursors (nodup_of_chain h.chain hstraight)
  rw [List.length_cons, List.length_map] at hbound
  exact Nat.le_of_succ_le_succ hbound

/-- Of a server that answers by the cursor, with finitely many cursors, the client gets the pages
to an end if and only if no cursor that it comes to leads back to itself through others.  Then it
asks for none twice, and for no more than there are, and for the first page.  Otherwise it goes on
for as long as it may, and asks again for what it has. -/
theorem paging_ends_iff_straight {σ : Type} (m : Manager σ) (kind : Kind) (id url : String)
    (u : Url) (query : List (String × String)) (answers : Option String → Option Response)
    (names : List String) (hurl : target url = .ok u) (hfixed : m.AnswersByCursor u query answers)
    (hcursors : m.Cursors kind id u query answers names) (s : σ) :
    let run := fun limit => m.recorded.pages? kind id url query limit none (s, [])
    let goesRound := ComesRound (m.Leads kind id u query answers) none
    ((∃ limit, (run limit).1.isSome = true) ↔ ¬goesRound) ∧
    (¬goesRound → ∀ limit, names.length < limit → (run limit).1.isSome = true) ∧
    (∀ limit, (run limit).1.isSome = true → ∃ sent : List (Option String),
      (run limit).2.2 = sent.map (m.pageAt u query) ∧ sent.Nodup ∧
      sent.length ≤ names.length + 1) ∧
    (goesRound → ∀ limit, (run limit).1 = none ∧ ∃ sent : List (Option String),
      (run limit).2.2 = sent.map (m.pageAt u query) ∧ sent.length = limit ∧
      (names.length + 1 < limit → ¬sent.Nodup)) := by
  intro run goesRound
  have hends : ¬goesRound → ∀ limit, names.length < limit → (run limit).1.isSome = true := by
    intro hstraight limit hlimit
    rcases pages?_walks kind id hurl hfixed s limit with
      ⟨answer, x, _, _, hrun, -⟩ | ⟨ps, x, -, hlength, hwalks⟩
    · exact congrArg (·.1.isSome) hrun
    · exact absurd (hwalks.length_le_names hcursors hstraight) (by omega)
  refine ⟨⟨?_, fun hstraight => ⟨_, hends hstraight _ (Nat.lt_succ_self _)⟩⟩, hends, ?_, ?_⟩
  · rintro ⟨limit, hsome⟩
    rcases pages?_walks kind id hurl hfixed s limit with
      ⟨_, _, _, _, -, hstraight, -⟩ | ⟨_, _, hrun, -⟩
    · exact hstraight
    · rw [show run limit = _ from hrun] at hsome
      cases hsome
  · intro limit hsome
    rcases pages?_walks kind id hurl hfixed s limit with
      ⟨_, _, _, sent, hrun, hstraight, hwalks⟩ | ⟨_, _, hrun, -⟩
    · have hnodup := (nodup_of_chain hwalks.chain hstraight).sublist hwalks.onWay
      rw [show run limit = _ from hrun]
      exact ⟨sent, hwalks.requests, hnodup, hwalks.length_le hcursors hnodup⟩
    · rw [show run limit = _ from hrun] at hsome
      cases hsome
  · intro hround limit
    rcases pages?_walks kind id hurl hfixed s limit with
      ⟨_, _, _, _, -, hstraight, -⟩ | ⟨ps, _, hrun, hlength, hwalks⟩
    · exact absurd hround hstraight
    · rw [show run limit = _ from hrun]
      have hcount : (cursors none ps).length = limit := by rw [length_cursors, hlength]
      refine ⟨rfl, cursors none ps, hwalks.requests, hcount, fun hlimit hnodup => ?_⟩
      have hbound := hwalks.length_le hcursors hnodup
      omega

def Page.response (p : Page) : Response :=
  { status := 200
    body := some (Text.utf8Bytes (Json.object
      [("results", .array (p.results.map Resource.toJson)),
        ("cursor", .ofOption .string p.cursor)]).render) }

def roundPage (cursor : Option String) : Page :=
  if cursor = some "a" then { results := [.bare "s2"], cursor := some "b" }
  else { results := [.bare (if cursor = none then "s1" else "s3")], cursor := some "a" }

def roundAnswer (cursor : Option String) : Option Response := some (roundPage cursor).response

def circling : Manager Unit :=
  { network := { send r s := (roundAnswer (r.url.pairs.lookup "cursor"), s) }
    base := "http://nsx", authorization := "", allowPassthrough := false, patience := .upTo 4 }

theorem roundPage_decoded (cursor : Option String) :
    ((roundPage cursor).response.json? Page.shape).bind Page.ofJson? = some (roundPage cursor) := by
  have hread : ∀ cursor ∈ [none, some "a", some "b"],
      ((roundPage cursor).response.json? Page.shape).bind Page.ofJson? = some (roundPage cursor) := by
    decide +kernel
  cases cursor with
  | none => exact hread _ (by decide)
  | some text =>
    by_cases ha : text = "a"
    · exact ha ▸ hread (some "a") (by decide)
    · -- the page of any other cursor is that of `b`
      have hother : roundPage (some text) = roundPage (some "b") := by
        simp [roundPage, ha]
      rw [hother]
      exact hread _ (by decide)

theorem circling_answers {u : Url} (hpairs : u.pairs = []) :
    circling.AnswersByCursor u [] roundAnswer := by
  intro cursor s
  have hcursor : (circling.pageAt u [] cursor).url.pairs.lookup "cursor" = cursor := by
    rw [(circling.pageAt_eq u [] cursor).2, hpairs]
    cases cursor <;> rfl
  exact congrArg roundAnswer hcursor

theorem circling_pageFrom {u : Url} {cursor : Option String}
    (h : (circling.pageAt u [] cursor).Sendable) :
    circling.pageFrom .segment "" u [] roundAnswer cursor = .ok (roundPage cursor) := by
  have hsuccess : isSuccess (roundPage cursor).response.status = true := by rfl
  rw [pageFrom, if_pos h, roundAnswer, pageOf, answerOf, if_pos hsuccess]
  dsimp only [Except.bind]
  rw [roundPage_decoded]

theorem circling_cursors (u : Url) :
    circling.Cursors .segment "" u [] roundAnswer ["a", "b"] := by
  intro cursor p next hp hnext
  by_cases hsent : (circling.pageAt u [] cursor).Sendable
  · obtain rfl := Except.ok.inj ((circling_pageFrom hsent).symm.trans hp)
    by_cases ha : cursor = some "a"
    · rw [roundPage, if_pos ha] at hnext
      exact Option.some.inj hnext ▸ by decide
    · rw [roundPage, if_neg ha] at hnext
      exact Option.some.inj hnext ▸ by decide
  · rw [pageFrom, if_neg hsent] at hp
    cases hp

theorem circling_comesRound {u : Url}
    (h : ∀ cursor ∈ [none, some "a", some "b"], (circling.pageAt u [] cursor).Sendable) :
    ComesRound (circling.Leads .segment "" u [] roundAnswer) none := by
  have hleads : ∀ cursor ∈ [none, some "a", some "b"], ¬(roundPage cursor).Final cursor →
      circling.Leads .segment "" u [] roundAnswer cursor (roundPage cursor).cursor :=
    fun cursor hcursor hgoes => ⟨_, circling_pageFrom (h cursor hcursor), hgoes, rfl⟩
  have first := hleads none (by decide) (by decide)
  have second := hleads (some "a") (by decide) (by decide)
  have third := hleads (some "b") (by decide) (by decide)
  exact ⟨some "a", .single first, .tail (.single second) third⟩

/-- The client asks the server for its two cursors in turn, whatever the limit. -/
theorem circling_server_never_ends :
    (∃ u, target "http://nsx/policy/api/v1/infra/segments" = .ok u ∧
      ComesRound (circling.Leads .segment "" u [] roundAnswer) none ∧
      ∀ limit,
        let run := circling.recorded.pages? .segment "" "http://nsx/policy/api/v1/infra/segments" []
          limit none ((), [])
        run.1 = none ∧ ∃ sent : List (Option String), run.2.2 = sent.map (circling.pageAt u []) ∧
          sent.length = limit ∧ (["a", "b"].length + 1 < limit → ¬sent.Nodup)) ∧
    (circling.recorded.pages? .segment "" "http://nsx/policy/api/v1/infra/segments" [] 5 none
      ((), [])).2.2.map (·.url.pairs) =
        [[], [("cursor", "a")], [("cursor", "b")], [("cursor", "a")], [("cursor", "b")]] := by
  refine ⟨?_, by decide +kernel⟩
  obtain ⟨u, hurl, hsendable⟩ : ∃ u, target "http://nsx/policy/api/v1/infra/segments" = .ok u ∧
      ([none, some "a", some "b"].all fun cursor =>
        decide (circling.pageAt u [] cursor).Sendable) = true :=
    exists_url_of_any (by decide +kernel)
  have haddress : circling.collectionUrl .segment [] =
      .ok "http://nsx/policy/api/v1/infra/segments" := by decide +kernel
  have hpairs := pairs_of_collectionUrl Url.isOrigin_nsx haddress hurl
  have hround := circling_comesRound fun cursor hcursor =>
    of_decide_eq_true (List.all_eq_true.1 hsendable cursor hcursor)
  obtain ⟨-, -, -, hgoes⟩ := paging_ends_iff_straight circling .segment "" _ u [] _ ["a", "b"] hurl
    (circling_answers hpairs) (circling_cursors u) ()
  exact ⟨u, hurl, hround, hgoes hround⟩

end Manager

end NetSweep
