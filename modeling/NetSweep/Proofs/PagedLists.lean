import NetSweep.Http.Script
import NetSweep.Proofs.FormQueries
import NetSweep.Proofs.ObjectAddresses
import NetSweep.Proofs.SentRequests

/-!
# Lists and searches come in pages

A list or search asks for one page after the other, each with the cursor of the page before it.
It ends with the first page that is the last, and gives what all of them hold, in order; or with
the first request that gets no page, and gives that one's error.  A script runs out of rules that
are used up, and a page that is repeated is the last: so the client of a script never goes on for
ever.
-/

namespace NetSweep

open Http Url

namespace Manager

variable {σ : Type} {m : Manager σ} {kind : Kind} {id url : String} {u : Url}
  {query : List (String × String)} {start : Option String} {s : σ} {p : Page} {ps : List Page}

/-! ## One page -/

def pageOf (kind : Kind) (id : String) (r : Request) (x : Option Response) : Answer Page :=
  (answerOf kind id r x).bind fun response =>
    match (response.json? Page.shape).bind Page.ofJson? with
    | none => .error (.invalidResponse notDecoded)
    | some p => .ok p

def pageAt (m : Manager σ) (u : Url) (query : List (String × String)) (cursor : Option String) :
    Request := m.signed (pageRequest query cursor (.plain .get u))

theorem page_recorded (hurl : target url = .ok u) (cursor : Option String) (s : σ)
    (sent : List Request) :
    m.recorded.page kind id url query cursor (s, sent) =
      if (m.pageAt u query cursor).Sendable then
        (pageOf kind id (m.pageAt u query cursor) (m.network.send (m.pageAt u query cursor) s).1,
          (m.network.send (m.pageAt u query cursor) s).2, sent ++ [m.pageAt u query cursor])
      else
        (.error (.communication (notFetchable (m.pageAt u query cursor).url)), s, sent) := by
  rw [page, call_recorded hurl, ← pageAt]
  by_cases h : (m.pageAt u query cursor).Sendable
  · rw [if_pos h, if_pos h, pageOf]
    cases answerOf kind id (m.pageAt u query cursor)
        (m.network.send (m.pageAt u query cursor) s).1 with
    | error e => rfl
    | ok response =>
      dsimp only [Except.bind]
      cases (response.json? Page.shape).bind Page.ofJson? <;> rfl
  · rw [if_neg h, if_neg h]

/-- A response that is a page is one whatever was asked. -/
theorem pageOf_ok {kind' : Kind} {id' : String} {r r' : Request} {x : Option Response}
    (h : pageOf kind id r x = .ok p) : pageOf kind' id' r' x = .ok p := by
  cases hanswer : answerOf kind id r x with
  | error e =>
    rw [pageOf, hanswer] at h
    cases h
  | ok response =>
    rw [pageOf, hanswer] at h
    rw [pageOf, answerOf_ok hanswer, h]

/-! ## The last page -/

/-- Nothing comes after the page: it is empty, has no cursor or an empty one, or has the one that
was sent to get it. -/
def Page.Final (p : Page) (sent : Option String) : Prop :=
  p.results = [] ∨ p.cursor = none ∨ p.cursor = some "" ∨ p.cursor = sent

instance (p : Page) (sent : Option String) : Decidable (p.Final sent) :=
  inferInstanceAs (Decidable
    (p.results = [] ∨ p.cursor = none ∨ p.cursor = some "" ∨ p.cursor = sent))

theorem Page.next?_eq_none_iff {sent : Option String} :
    p.next? sent = none ↔ p.Final sent := by
  cases hcursor : p.cursor with
  | none => simp [next?, Final, hcursor]
  | some next => simp [next?, Final, hcursor, or_iff_not_imp_left]

theorem Page.cursor_of_next? {sent : Option String} {next : String}
    (h : p.next? sent = some next) : p.cursor = some next := by
  rw [next?] at h
  obtain ⟨next', hcursor, hnext⟩ := Option.bind_eq_some_iff.1 h
  split at hnext
  · cases hnext
  · rw [hcursor, hnext]

/-! ## One page after the other -/

/-- The cursors that pages are asked with: the one to start with, then that of each page before. -/
def cursors (start : Option String) : List Page → List (Option String)
  | [] => []
  | p :: ps => start :: cursors p.cursor ps

def cursorAfter (start : Option String) (ps : List Page) : Option String :=
  (ps.map Page.cursor).getLastD start

def asked (m : Manager σ) (u : Url) (query : List (String × String)) (start : Option String)
    (ps : List Page) : List Request := (cursors start ps).map (m.pageAt u query)

def askedNext (m : Manager σ) (u : Url) (query : List (String × String)) (start : Option String)
    (ps : List Page) : Request := m.pageAt u query (cursorAfter start ps)

/-- The pages are what the network responds with when it is asked for them one after the other. -/
structure Reads (m : Manager σ) (kind : Kind) (id : String) (u : Url)
    (query : List (String × String)) (start : Option String) (s : σ) (ps : List Page) :
    Prop where
  sendable : ∀ r ∈ m.asked u query start ps, r.Sendable
  responses : List.zipWith (pageOf kind id) (m.asked u query start ps)
    (m.network.responses (m.asked u query start ps) s) = ps.map .ok

/-- None of the pages is the last. -/
def Unended (start : Option String) (ps : List Page) : Prop :=
  ∀ x ∈ ps.zip (cursors start ps), ¬x.1.Final x.2

instance (start : Option String) (ps : List Page) : Decidable (Unended start ps) :=
  inferInstanceAs (Decidable (∀ x ∈ ps.zip (cursors start ps), ¬x.1.Final x.2))

/-- How asking for pages ends: with the last page, with a response that is no page, or with a
request that cannot be sent. -/
inductive Course (m : Manager σ) (kind : Kind) (id : String) (u : Url)
    (query : List (String × String)) (start : Option String) (s : σ) :
    Answer (List Resource) → σ × List Request → Prop
  | complete (ps : List Page) (p : Page) (reads : m.Reads kind id u query start s (ps ++ [p]))
      (unended : Unended start ps) (final : p.Final (cursorAfter start ps)) :
      Course m kind id u query start s (.ok ((ps ++ [p]).flatMap Page.results))
        (m.network.after (m.asked u query start (ps ++ [p])) s,
          m.asked u query start (ps ++ [p]))
  | failed (ps : List Page) (e : BackendError) (reads : m.Reads kind id u query start s ps)
      (unended : Unended start ps) (sendable : (m.askedNext u query start ps).Sendable)
      (fails : pageOf kind id (m.askedNext u query start ps) (m.network.send
        (m.askedNext u query start ps) (m.network.after (m.asked u query start ps) s)).1 =
          .error e) :
      Course m kind id u query start s (.error e)
        (m.network.after (m.asked u query start ps ++ [m.askedNext u query start ps]) s,
          m.asked u query start ps ++ [m.askedNext u query start ps])
  | unsendable (ps : List Page) (reads : m.Reads kind id u query start s ps)
      (unended : Unended start ps) (stays : ¬(m.askedNext u query start ps).Sendable) :
      Course m kind id u query start s
        (.error (.communication (notFetchable (m.askedNext u query start ps).url)))
        (m.network.after (m.asked u query start ps) s, m.asked u query start ps)

/-- As many pages were read as the limit allows, and none was the last. -/
structure Limited (m : Manager σ) (kind : Kind) (id : String) (u : Url)
    (query : List (String × String)) (start : Option String) (s : σ) (limit : Nat)
    (ps : List Page) (x : σ × List Request) : Prop where
  reads : m.Reads kind id u query start s ps
  unended : Unended start ps
  limit : ps.length = limit
  state : x = (m.network.after (m.asked u query start ps) s, m.asked u query start ps)

theorem asked_cons : m.asked u query start (p :: ps) =
    m.pageAt u query start :: m.asked u query p.cursor ps := rfl

theorem askedNext_cons :
    m.askedNext u query start (p :: ps) = m.askedNext u query p.cursor ps := by
  rw [askedNext, askedNext, cursorAfter, List.map_cons, List.getLastD_cons, cursorAfter]

theorem cursorAfter_cons : cursorAfter start (p :: ps) = cursorAfter p.cursor ps := by
  rw [cursorAfter, List.map_cons, List.getLastD_cons, cursorAfter]

theorem reads_nil : m.Reads kind id u query start s [] where
  sendable _ hr := absurd hr List.not_mem_nil
  responses := rfl

theorem reads_cons : m.Reads kind id u query start s (p :: ps) ↔
    (m.pageAt u query start).Sendable ∧
      pageOf kind id (m.pageAt u query start)
        (m.network.send (m.pageAt u query start) s).1 = .ok p ∧
      m.Reads kind id u query p.cursor (m.network.send (m.pageAt u query start) s).2 ps := by
  constructor
  · rintro ⟨hsendable, hresponses⟩
    rw [asked_cons] at hsendable hresponses
    rw [Network.responses, List.zipWith_cons_cons, List.map_cons] at hresponses
    obtain ⟨hfirst, hrest⟩ := List.forall_mem_cons.1 hsendable
    obtain ⟨hpage, hpages⟩ := List.cons.inj hresponses
    exact ⟨hfirst, hpage, hrest, hpages⟩
  · rintro ⟨hfirst, hpage, hrest, hpages⟩
    refine ⟨List.forall_mem_cons.2 ⟨hfirst, hrest⟩, ?_⟩
    rw [asked_cons, Network.responses, List.zipWith_cons_cons, List.map_cons, hpage, hpages]

/-- Pages are what the network responds with, whoever asks. -/
theorem Reads.congr {kind' : Kind} {id' : String} (h : m.Reads kind id u query start s ps) :
    m.Reads kind' id' u query start s ps := by
  induction ps generalizing start s with
  | nil => exact reads_nil
  | cons p ps ih =>
    obtain ⟨hsendable, hpage, hrest⟩ := reads_cons.1 h
    exact reads_cons.2 ⟨hsendable, pageOf_ok hpage, ih hrest⟩

theorem reads_of_append {ps' : List Page}
    (h : m.Reads kind id u query start s (ps ++ ps')) : m.Reads kind id u query start s ps := by
  induction ps generalizing start s with
  | nil => exact reads_nil
  | cons p ps ih =>
    obtain ⟨hsendable, hpage, hrest⟩ := reads_cons.1 h
    exact reads_cons.2 ⟨hsendable, hpage, ih hrest⟩

theorem unended_nil : Unended start [] := nofun

theorem unended_cons : Unended start (p :: ps) ↔ ¬p.Final start ∧ Unended p.cursor ps :=
  List.forall_mem_cons

/-- The course after a page that is not the last, with that page before it. -/
theorem Course.cons (hsendable : (m.pageAt u query start).Sendable)
    (hpage : pageOf kind id (m.pageAt u query start)
      (m.network.send (m.pageAt u query start) s).1 = .ok p)
    (hgoes : ¬p.Final start) {answer : Answer (List Resource)} {x : σ × List Request}
    (h : m.Course kind id u query p.cursor (m.network.send (m.pageAt u query start) s).2
      answer x) :
    m.Course kind id u query start s (answer.map (p.results ++ ·))
      (x.1, m.pageAt u query start :: x.2) := by
  cases h with
  | complete ps last reads unended final =>
    have hcourse := Course.complete (p :: ps) last (reads_cons.2 ⟨hsendable, hpage, reads⟩)
      (unended_cons.2 ⟨hgoes, unended⟩) (by rwa [cursorAfter_cons])
    rw [List.cons_append, List.flatMap_cons, asked_cons, Network.after] at hcourse
    exact hcourse
  | failed ps e reads unended sendable fails =>
    rw [← askedNext_cons] at sendable fails
    have hcourse := Course.failed (p :: ps) e (reads_cons.2 ⟨hsendable, hpage, reads⟩)
      (unended_cons.2 ⟨hgoes, unended⟩) sendable fails
    rw [askedNext_cons, asked_cons, List.cons_append, Network.after] at hcourse
    exact hcourse
  | unsendable ps reads unended stays =>
    rw [← askedNext_cons] at stays
    have hcourse := Course.unsendable (p :: ps) (reads_cons.2 ⟨hsendable, hpage, reads⟩)
      (unended_cons.2 ⟨hgoes, unended⟩) stays
    rw [askedNext_cons, asked_cons, Network.after] at hcourse
    exact hcourse

/-- What asking for pages comes to, with the requests that are added. -/
theorem pages?_recorded (hurl : target url = .ok u) (fuel : Nat) (start : Option String) (s : σ)
    (sent : List Request) :
    (∃ answer x, m.Course kind id u query start s answer x ∧
      m.recorded.pages? kind id url query fuel start (s, sent) =
        (some answer, x.1, sent ++ x.2)) ∨
    ∃ ps x, m.Limited kind id u query start s fuel ps x ∧
      m.recorded.pages? kind id url query fuel start (s, sent) = (none, x.1, sent ++ x.2) := by
  induction fuel generalizing start s sent with
  | zero =>
    refine .inr ⟨[], (s, []), ⟨reads_nil, unended_nil, rfl, rfl⟩, ?_⟩
    rw [pages?, List.append_nil]
  | succ fuel ih =>
    have hnext : m.askedNext u query start [] = m.pageAt u query start := rfl
    rw [pages?, page_recorded hurl]
    by_cases hsendable : (m.pageAt u query start).Sendable
    · rw [if_pos hsendable]
      cases hpage : pageOf kind id (m.pageAt u query start)
          (m.network.send (m.pageAt u query start) s).1 with
      | error e =>
        exact .inl ⟨_, _, .failed [] e reads_nil unended_nil hsendable hpage, rfl⟩
      | ok p =>
        dsimp only
        cases hcursor : p.next? start with
        | none =>
          have hcourse := Course.complete [] p (reads_cons.2 ⟨hsendable, hpage, reads_nil⟩)
            unended_nil (Page.next?_eq_none_iff.1 hcursor)
          rw [List.nil_append, List.flatMap_singleton] at hcourse
          exact .inl ⟨_, _, hcourse, rfl⟩
        | some next =>
          have hgoes : ¬p.Final start := fun hfinal => by
            rw [Page.next?_eq_none_iff.2 hfinal] at hcursor
            cases hcursor
          have hadded : ∀ rest : List Request, sent ++ [m.pageAt u query start] ++ rest =
              sent ++ m.pageAt u query start :: rest := fun rest => by simp
          dsimp only
          rw [← Page.cursor_of_next? hcursor]
          rcases ih p.cursor (m.network.send (m.pageAt u query start) s).2
            (sent ++ [m.pageAt u query start]) with
            ⟨answer, x, hcourse, hrun⟩ | ⟨ps, x, hlimited, hrun⟩
          · refine .inl ⟨_, _, hcourse.cons hsendable hpage hgoes, ?_⟩
            rw [hrun, hadded]
            cases answer <;> rfl
          · refine .inr ⟨p :: ps, (x.1, m.pageAt u query start :: x.2),
              ⟨reads_cons.2 ⟨hsendable, hpage, hlimited.reads⟩,
                unended_cons.2 ⟨hgoes, hlimited.unended⟩,
                congrArg Nat.succ hlimited.limit, ?_⟩, ?_⟩
            · rw [hlimited.state]
              rfl
            · rw [hrun, hadded]
    · rw [if_neg hsendable]
      refine .inl ⟨_, _, .unsendable [] reads_nil unended_nil hsendable, ?_⟩
      rw [asked, cursors, List.map_nil, List.append_nil]
      rfl

/-- Pages that the network responds with, up to the first that is the last, are all that is asked
for, if so many are allowed. -/
theorem pages?_of_reads (hurl : target url = .ok u)
    (reads : m.Reads kind id u query start s (ps ++ [p])) (unended : Unended start ps)
    (final : p.Final (cursorAfter start ps)) {fuel : Nat} (hfuel : ps.length < fuel)
    (sent : List Request) :
    m.recorded.pages? kind id url query fuel start (s, sent) =
      (some (.ok ((ps ++ [p]).flatMap Page.results)),
        m.network.after (m.asked u query start (ps ++ [p])) s,
        sent ++ m.asked u query start (ps ++ [p])) := by
  induction ps generalizing start s sent fuel with
  | nil =>
    obtain ⟨fuel, rfl⟩ := Nat.exists_eq_add_one_of_ne_zero (Nat.ne_of_gt hfuel)
    obtain ⟨hsendable, hpage, -⟩ := reads_cons.1 reads
    have hlast : p.next? start = none := Page.next?_eq_none_iff.2 final
    rw [pages?, page_recorded hurl, if_pos hsendable, hpage]
    dsimp only
    rw [hlast, List.nil_append, List.flatMap_singleton]
    rfl
  | cons first ps ih =>
    obtain ⟨fuel, rfl⟩ := Nat.exists_eq_add_one_of_ne_zero (Nat.ne_zero_of_lt hfuel)
    obtain ⟨hsendable, hpage, hrest⟩ := reads_cons.1 reads
    obtain ⟨hgoes, hunended⟩ := unended_cons.1 unended
    rw [cursorAfter_cons] at final
    rw [pages?, page_recorded hurl, if_pos hsendable, hpage]
    dsimp only
    cases hcursor : first.next? start with
    | none => exact absurd (Page.next?_eq_none_iff.1 hcursor) hgoes
    | some next =>
      dsimp only
      rw [← Page.cursor_of_next? hcursor, ih hrest hunended final (Nat.lt_of_succ_lt_succ hfuel),
        List.append_assoc]
      rfl

/-! ## Requests for pages -/

/-- A request for a page is the URL's with the parameters of the query after those that the URL
has, and after them the cursor. -/
theorem pageAt_eq (u : Url) (query : List (String × String)) (cursor : Option String) :
    (∃ text, m.pageAt u query cursor =
      { method := .get, url := { u with query := text }, authorization := some m.authorization
        token := none, body := none }) ∧
    (m.pageAt u query cursor).url.pairs = u.pairs ++ query ++ cursorPairs cursor := by
  constructor
  · obtain ⟨text, htext⟩ := u.exists_withPairs query
    obtain ⟨text', htext'⟩ := (u.withPairs query).exists_withPairs (cursorPairs cursor)
    refine ⟨text', ?_⟩
    have hurl : (u.withPairs query).withPairs (cursorPairs cursor) = { u with query := text' } := by
      rw [htext', htext]
    rw [pageAt, signed, pageRequest, withQuery, withQuery, Request.plain, hurl]
  · show ((u.withPairs query).withPairs (cursorPairs cursor)).pairs = _
    rw [Url.pairs_withPairs, Url.pairs_withPairs]

/-! ## Lists and searches -/

/-- How a list or search goes, given its URL as text. -/
inductive Gathers (m : Manager σ) (kind : Kind) (id : String) (address : Answer String)
    (query : List (String × String)) (s : σ) :
    Answer (List Resource) → σ × List Request → Prop
  | refused (e : BackendError) (refuses : address = .error e) :
      Gathers m kind id address query s (.error e) (s, [])
  | misled (text message : String) (text_ok : address = .ok text)
      (misses : target text = .error message) :
      Gathers m kind id address query s (.error (.communication message)) (s, [])
  | asks (text : String) (u : Url) (answer : Answer (List Resource)) (x : σ × List Request)
      (text_ok : address = .ok text) (url_ok : target text = .ok u)
      (course : m.Course kind id u query none s answer x) :
      Gathers m kind id address query s answer x

/-- How a list or search goes that takes more pages than the client's patience. -/
inductive GivesUp (m : Manager σ) (kind : Kind) (id : String) (address : Answer String)
    (query : List (String × String)) (s : σ) : σ × List Request → Prop
  | first (none_allowed : m.patience.limit = 0) : GivesUp m kind id address query s (s, [])
  | later (text : String) (u : Url) (ps : List Page) (x : σ × List Request)
      (text_ok : address = .ok text) (url_ok : target text = .ok u)
      (limited : m.Limited kind id u query none s m.patience.limit ps x) :
      GivesUp m kind id address query s x

/-- A run of a list or search has an answer, and comes to it by asking the network. -/
def Finishes (m : Manager σ) (kind : Kind) (id : String) (address : Answer String)
    (query : List (String × String)) (s : σ)
    (run : Option (Answer (List Resource)) × σ × List Request) : Prop :=
  ∃ answer, run.1 = some answer ∧ m.Gathers kind id address query s answer run.2

theorem length_cursors (start : Option String) (ps : List Page) :
    (cursors start ps).length = ps.length := by
  induction ps generalizing start with
  | nil => rfl
  | cons p ps ih => rw [cursors, List.length_cons, List.length_cons, ih]

theorem length_asked : (m.asked u query start ps).length = ps.length := by
  rw [asked, List.length_map, length_cursors]

theorem pages?_gathers {address : Answer String} (haddress : address = .ok url) :
    let run := m.recorded.pages? kind id url query m.patience.limit none (s, [])
    m.Finishes kind id address query s run ∨
      run.1 = none ∧ m.GivesUp kind id address query s run.2 := by
  intro run
  cases htarget : target url with
  | error message =>
    cases hfuel : m.patience.limit with
    | zero =>
      have hrun : run = (none, s, []) := by
        show m.recorded.pages? kind id url query m.patience.limit none (s, []) = _
        rw [hfuel, pages?]
      rw [hrun]
      exact .inr ⟨rfl, .first hfuel⟩
    | succ fuel =>
      have hrun : run = (some (.error (.communication message)), s, []) := by
        show m.recorded.pages? kind id url query m.patience.limit none (s, []) = _
        rw [hfuel, pages?, page, call_of_no_target htarget]
      rw [hrun]
      exact .inl ⟨_, rfl, .misled url message haddress htarget⟩
  | ok u =>
    rcases pages?_recorded htarget m.patience.limit none s [] with
      ⟨answer, x, hcourse, hrun⟩ | ⟨ps, x, hlimited, hrun⟩
    · rw [show run = (some answer, x) from hrun]
      exact .inl ⟨answer, rfl, .asks url u answer x haddress htarget hcourse⟩
    · rw [show run = (none, x) from hrun]
      exact .inr ⟨rfl, .later url u ps x haddress htarget hlimited⟩

theorem list?_gathers (kind : Kind) (parents : List String) (hkind : kind.sharesCollection = false)
    (s : σ) :
    let run := m.recorded.list? kind parents (s, [])
    let address := m.collectionUrl kind parents
    m.Finishes kind ("/".intercalate parents) address [] s run ∨
      run.1 = none ∧ m.GivesUp kind ("/".intercalate parents) address [] s run.2 := by
  intro run address
  have hall : Except.map (ofKind kind) = (id : Answer (List Resource) → _) := by
    funext answer
    have hsame : ofKind kind = id := by
      funext resources
      rw [ofKind, hkind, if_neg Bool.false_ne_true, id_eq]
    rw [hsame, Except.map_id]
  cases haddress : m.collectionUrl kind parents with
  | error e =>
    have hrun : run = (some (.error e), s, []) := by
      show m.recorded.list? kind parents (s, []) = _
      rw [list?, show m.recorded.collectionUrl kind parents = _ from haddress]
    rw [hrun]
    exact .inl ⟨_, rfl, .refused e haddress⟩
  | ok url =>
    have hrun : run =
        m.recorded.pages? kind ("/".intercalate parents) url [] m.patience.limit none (s, []) := by
      show m.recorded.list? kind parents (s, []) = _
      rw [list?, show m.recorded.collectionUrl kind parents = _ from haddress]
      dsimp only
      rw [hall, Option.map_id]
      rfl
    rw [hrun]
    exact pages?_gathers haddress

def searchUrl (m : Manager σ) (kind : Kind) : Answer String :=
  (requireApi m.allowPassthrough kind).map fun _ => m.base ++ kind.api.root ++ "/search/query"

theorem searchUrl_eq_ok (h : m.searchUrl kind = .ok url) :
    requireApi m.allowPassthrough kind = .ok () ∧
      m.base ++ kind.api.root ++ "/search/query" = url := by
  rw [searchUrl] at h
  cases hcheck : requireApi m.allowPassthrough kind with
  | error e =>
    rw [hcheck] at h
    cases h
  | ok x =>
    rw [hcheck] at h
    exact ⟨rfl, Except.ok.inj h⟩

theorem search?_gathers (kind : Kind) (tags : List TagPredicate) (s : σ) :
    let run := m.recorded.search? kind tags (s, [])
    let query := [("query", Search.query kind tags)]
    m.Finishes kind "" (m.searchUrl kind) query s run ∨
      run.1 = none ∧ m.GivesUp kind "" (m.searchUrl kind) query s run.2 := by
  intro run query
  cases haccess : requireApi m.allowPassthrough kind with
  | error e =>
    have hrun : run = (some (.error e), s, []) := by
      show m.recorded.search? kind tags (s, []) = _
      rw [search?, show requireApi m.recorded.allowPassthrough kind = _ from haccess]
    rw [hrun]
    exact .inl ⟨_, rfl, .refused e (by rw [searchUrl, haccess]; rfl)⟩
  | ok _ =>
    have hrun : run = m.recorded.pages? kind "" (m.base ++ kind.api.root ++ "/search/query") query
        m.patience.limit none (s, []) := by
      show m.recorded.search? kind tags (s, []) = _
      rw [search?, show requireApi m.recorded.allowPassthrough kind = _ from haccess]
      rfl
    rw [hrun]
    exact pages?_gathers (by rw [searchUrl, haccess]; rfl)

/-- The URLs of lists and searches have no parameters of their own, at a manager that is addressed
by scheme and authority. -/
theorem pairs_of_collectionUrl (hbase : IsOrigin m.base) {parents : List String}
    (h : m.collectionUrl kind parents = .ok url) (hurl : target url = .ok u) : u.pairs = [] := by
  rw [collectionUrl_names h] at hurl
  have hne : kind.api.segments ++ Kind.fill kind.collection parents ≠ [] :=
    List.append_ne_nil_of_left_ne_nil (Api.segments_ne_nil _) _
  rw [Url.pairs, query_of_names hbase hne hurl]
  rfl

theorem pairs_of_searchUrl (hbase : IsOrigin m.base) (h : m.searchUrl kind = .ok url)
    (hurl : target url = .ok u) : u.pairs = [] := by
  have hpath : "/search/query" = pathText (.segments (["search", "query"].map encodeId)) := by
    decide
  obtain ⟨-, rfl⟩ := searchUrl_eq_ok h
  rw [hpath, Api.root_eq, String.append_assoc, ← pathText_append, ← List.map_append] at hurl
  have hne : kind.api.segments ++ ["search", "query"] ≠ [] :=
    List.append_ne_nil_of_left_ne_nil (Api.segments_ne_nil _) _
  rw [Url.pairs, query_of_names hbase hne hurl]
  rfl

end Manager

/-! ## Scripts -/

namespace Http.Script

/-- A reply uses up one rule or none. -/
theorem take?_uses {r : Request} {rules left : List Rule} {reply : Reply}
    (h : take? r rules = some (reply, left)) : left = rules ∨
      (left.filter fun rule => !rule.keep).length + 1 =
        (rules.filter fun rule => !rule.keep).length := by
  induction rules generalizing left with
  | nil => cases h
  | cons rule rest ih =>
    rw [take?] at h
    split at h
    · obtain ⟨-, rfl⟩ := Prod.mk.inj (Option.some.inj h)
      cases hkeep : rule.keep <;> simp [hkeep]
    · obtain ⟨⟨reply', left'⟩, htake, hpair⟩ := Option.map_eq_some_iff.1 h
      cases hpair
      rcases ih htake with rfl | huses
      · exact .inl rfl
      · right
        cases hkeep : rule.keep <;> simp [hkeep, huses]

theorem send_uses (r : Request) (s : Script) :
    (network.send r s).2 = s ∨ (network.send r s).2.oneShot + 1 = s.oneShot := by
  simp only [network]
  split
  · exact .inl rfl
  · split
    · rename_i htake
      rcases take?_uses htake with rfl | huses
      · exact .inl rfl
      · exact .inr huses
    · exact .inl rfl

theorem take?_congr {r r' : Request} (h : label r = label r') (rules : List Rule) :
    take? r rules = take? r' rules := by
  induction rules with
  | nil => rfl
  | cons rule rest ih => rw [take?, take?, ih, Rule.meets, Rule.meets, h]

/-- A script tells requests apart by their methods and the schemes and paths of their URLs. -/
theorem send_congr {r r' : Request} (hmethod : r.method = r'.method)
    (hscheme : r.url.scheme = r'.url.scheme) (hpath : r.url.path = r'.url.path) (s : Script) :
    network.send r s = network.send r' s := by
  have hlabel : label r = label r' := by rw [label, label, hmethod, hpath]
  simp only [network, hscheme, take?_congr hlabel]

end Http.Script

namespace Manager

variable {m : Manager Script} {kind : Kind} {id : String} {u : Url}
  {query : List (String × String)} {start : Option String} {s : Script} {ps : List Page}

theorem send_pageAt (hm : m.network = Script.network) (cursor cursor' : Option String)
    (s : Script) : m.network.send (m.pageAt u query cursor) s =
      m.network.send (m.pageAt u query cursor') s := by
  obtain ⟨text, heq⟩ := (m.pageAt_eq u query cursor).1
  obtain ⟨text', heq'⟩ := (m.pageAt_eq u query cursor').1
  rw [hm, heq, heq']
  exact Script.send_congr (by rfl) (by rfl) (by rfl) s

/-- A page that uses no rule up is repeated, and then it is the last.  So there are no more pages
that are not than rules that can be used up, and one. -/
theorem length_le_of_unended (hm : m.network = Script.network)
    (hreads : m.Reads kind id u query start s ps) (hunended : Unended start ps) :
    ps.length ≤ s.oneShot + 1 := by
  induction ps generalizing start s with
  | nil => exact Nat.zero_le _
  | cons p ps ih =>
    obtain ⟨-, hpage, hrest⟩ := reads_cons.1 hreads
    have huses := Script.send_uses (m.pageAt u query start) s
    rw [← hm] at huses
    have hlength := ih hrest (unended_cons.1 hunended).2
    rw [List.length_cons]
    rcases huses with hsame | huses
    · rw [hsame] at hrest
      cases ps with
      | nil => exact Nat.succ_le_succ (Nat.zero_le _)
      | cons next ps =>
        obtain ⟨-, hnext, -⟩ := reads_cons.1 hrest
        rw [send_pageAt hm p.cursor start] at hnext
        obtain rfl := Except.ok.inj ((pageOf_ok hpage).symm.trans hnext)
        have hfinal : p.Final p.cursor := .inr (.inr (.inr rfl))
        exact absurd hfinal (unended_cons.1 (unended_cons.1 hunended).2).1
    · omega

/-- The client of a script sends no more requests than rules can be used up, and two. -/
theorem Finishes.length_le (hm : m.network = Script.network) {address : Answer String}
    {run : Option (Answer (List Resource)) × Script × List Request}
    (h : m.Finishes kind id address query s run) : run.2.2.length ≤ s.oneShot + 2 := by
  obtain ⟨answer, -, hgathers⟩ := h
  rcases run with ⟨_, x⟩
  cases hgathers with
  | refused => exact Nat.zero_le _
  | misled => exact Nat.zero_le _
  | asks _ _ _ _ _ _ course =>
    cases course with
    | complete ps p reads unended final =>
      have hpages := length_le_of_unended hm (reads_of_append reads) unended
      rw [length_asked, List.length_append, List.length_singleton]
      omega
    | failed ps e reads unended sendable fails =>
      have hpages := length_le_of_unended hm reads unended
      rw [List.length_append, length_asked, List.length_singleton]
      omega
    | unsendable ps reads unended stays =>
      have hpages := length_le_of_unended hm reads unended
      rw [length_asked]
      omega

/-- Nor does it give up, if it may send that many. -/
theorem not_givesUp (hm : m.network = Script.network) (hlimit : s.oneShot + 2 ≤ m.patience.limit)
    {address : Answer String} {x : Script × List Request} :
    ¬m.GivesUp kind id address query s x := by
  rintro (hzero | ⟨_, _, ps, _, _, _, hlimited⟩)
  · omega
  · have hpages := length_le_of_unended hm hlimited.reads hlimited.unended
    have hcount := hlimited.limit
    omega

/-- A list of a kind that does not share its collection, or a search, finishes with an answer, or
has none after as many pages as the client's patience allows.  If it finishes, it gives what the
pages hold that the network responds with, up to the first that is the last, or the error of the
first request that gets none; each request but the first has the cursor of the page before it, and
no other parameters than the first.  The client of a script finishes if its patience is for as many
requests as the script has rules that are used up, and two, and sends no more.  The answer of a list
or search that finishes is the one that the backend gives. -/
theorem lists_collect_pages :
    (∀ {σ : Type} (m : Manager σ) (kind : Kind) (s : σ),
      (kind.sharesCollection = false → ∀ parents,
        let run := m.recorded.list? kind parents (s, [])
        let address := m.collectionUrl kind parents
        m.Finishes kind ("/".intercalate parents) address [] s run ∨
          run.1 = none ∧ m.GivesUp kind ("/".intercalate parents) address [] s run.2) ∧
      ∀ tags,
        let run := m.recorded.search? kind tags (s, [])
        let query := [("query", Search.query kind tags)]
        m.Finishes kind "" (m.searchUrl kind) query s run ∨
          run.1 = none ∧ m.GivesUp kind "" (m.searchUrl kind) query s run.2) ∧
    (∀ {σ : Type} (m : Manager σ) (u : Url) (query : List (String × String))
        (cursor : Option String),
      (∃ text, m.pageAt u query cursor =
        { method := .get, url := { u with query := text }, authorization := some m.authorization
          token := none, body := none }) ∧
      (m.pageAt u query cursor).url.pairs = u.pairs ++ query ++ cursorPairs cursor ∧
      (IsOrigin m.base → ∀ kind text, target text = .ok u →
        (m.searchUrl kind = .ok text ∨ ∃ parents, m.collectionUrl kind parents = .ok text) →
        u.pairs = [])) ∧
    (∀ (m : Manager Script), m.network = Script.network → ∀ (kind : Kind) (s : Script),
      s.oneShot + 2 ≤ m.patience.limit →
      (kind.sharesCollection = false → ∀ parents,
        let run := m.recorded.list? kind parents (s, [])
        m.Finishes kind ("/".intercalate parents) (m.collectionUrl kind parents) [] s run ∧
          run.2.2.length ≤ s.oneShot + 2) ∧
      ∀ tags,
        let run := m.recorded.search? kind tags (s, [])
        m.Finishes kind "" (m.searchUrl kind) [("query", Search.query kind tags)] s run ∧
          run.2.2.length ≤ s.oneShot + 2) ∧
    ∀ {σ : Type} (m : Manager σ) (kind : Kind) (s x : σ) (answer : Answer (List Resource)),
      (∀ parents, m.list? kind parents s = (some answer, x) →
        m.backend.list kind parents s = (answer, x)) ∧
      ∀ tags, m.search? kind tags s = (some answer, x) →
        m.backend.search kind tags s = (answer, x) := by
  refine ⟨fun m kind s => ⟨fun hkind parents => m.list?_gathers kind parents hkind s,
    fun tags => m.search?_gathers kind tags s⟩, fun m u query cursor => ?_, ?_,
    fun m kind s x answer => ⟨fun parents => m.list_of_list?, fun tags => m.search_of_search?⟩⟩
  · refine ⟨(m.pageAt_eq u query cursor).1, (m.pageAt_eq u query cursor).2, ?_⟩
    rintro hbase kind text hurl (hsearch | ⟨parents, hlist⟩)
    · exact pairs_of_searchUrl hbase hsearch hurl
    · exact pairs_of_collectionUrl hbase hlist hurl
  · intro m hm kind s hlimit
    refine ⟨fun hkind parents => ?_, fun tags => ?_⟩
    · have hfinishes := (m.list?_gathers kind parents hkind s).resolve_right
        fun hgives => not_givesUp hm hlimit hgives.2
      exact ⟨hfinishes, hfinishes.length_le hm⟩
    · have hfinishes := (m.search?_gathers kind tags s).resolve_right
        fun hgives => not_givesUp hm hlimit hgives.2
      exact ⟨hfinishes, hfinishes.length_le hm⟩

def twoPages : Script :=
  { rules := [
      responding "\x7b\"results\": [\x7b\"id\": \"a\"\x7d], \"cursor\": \"x y\"\x7d",
      responding "\x7b\"results\": [\x7b\"id\": \"b\"\x7d]\x7d"]
    default := .missing }

/-- The second page is asked for with the cursor of the first, and nothing is asked for after it. -/
theorem two_pages_collected :
    (let run := patient.recorded.list? .segment [] (twoPages, [])
     patient.Finishes .segment ("/".intercalate []) (patient.collectionUrl .segment []) [] twoPages
       run ∧ run.2.2.length ≤ twoPages.oneShot + 2) ∧
    (∃ u, target "http://nsx/policy/api/v1/infra/segments" = .ok u ∧ u.pairs = []) ∧
    (patient.recorded.list .segment [] (twoPages, [])).1.toOption.map (·.map Resource.id) =
      some ["a", "b"] ∧
    (patient.recorded.list .segment [] (twoPages, [])).2.2.map (·.url.pairs) =
      [[], [("cursor", "x y")]] := by
  obtain ⟨-, hrequests, hscript, -⟩ := lists_collect_pages
  have hlist := (hscript patient rfl .segment twoPages (by decide)).1 (by decide) []
  obtain ⟨u, hurl⟩ : ∃ u, target "http://nsx/policy/api/v1/infra/segments" = .ok u :=
    exists_url_of_isSome (by decide +kernel)
  have hpairs := (hrequests patient u [] none).2.2 isOrigin_nsx .segment _ hurl
    (.inr ⟨[], by decide +kernel⟩)
  exact ⟨hlist, ⟨u, hurl, hpairs⟩, by decide +kernel, by decide +kernel⟩

end Manager

end NetSweep
