import NetSweep.Manager

/-!
# What the client asks of its network

A call of the client makes requests of one URL.  What is laid on a request before it is sent, the
credentials, a query or a body, leaves its method and the path of its URL alone.  So a network that
keeps something under the requests of some methods and paths keeps it under every call that makes
no others, however many pages the call goes through.
-/

namespace NetSweep

open Http

/-- Parameters that are added change a URL's query only. -/
theorem Http.Url.exists_withPairs (u : Url) (pairs : List (String × String)) :
    ∃ query, u.withPairs pairs = { u with query } := by
  unfold withPairs
  split
  · split
    · exact ⟨none, rfl⟩
    · exact ⟨u.query, rfl⟩
  · exact ⟨_, rfl⟩

theorem Http.Url.withPairs_path (u : Url) (pairs : List (String × String)) :
    (u.withPairs pairs).path = u.path := by
  obtain ⟨query, h⟩ := u.exists_withPairs pairs
  rw [h]

/-- A request is sent once, or it cannot be and there is an error. -/
theorem Http.exchange_sends {σ : Type} (network : Network σ) (r : Request)
    (x : σ × List Request) :
    (exchange network.recorded r x).2.2 = x.2 ++ [r] ∨
      (∃ e, (exchange network.recorded r x).1 = .error e) ∧
        (exchange network.recorded r x).2.2 = x.2 := by
  unfold exchange
  split
  · left
    have hkept := Network.recorded_send_snd network r x
    rcases hsend : network.recorded.send r x with ⟨_ | response, y⟩
    · rw [hsend] at hkept
      exact hkept
    · rw [hsend] at hkept
      exact hkept
  · exact .inr ⟨⟨_, rfl⟩, rfl⟩

namespace Manager

/-! ## Edits of requests -/

def InPlace (edit : Request → Request) : Prop :=
  ∀ r, (edit r).method = r.method ∧ (edit r).url.path = r.url.path

theorem inPlace_unedited : InPlace unedited := fun _ => ⟨rfl, rfl⟩

theorem inPlace_withBody (body : Json) : InPlace (withBody body) := fun _ => ⟨rfl, rfl⟩

theorem inPlace_withQuery (pairs : List (String × String)) : InPlace (withQuery pairs) :=
  fun r => ⟨rfl, r.url.withPairs_path pairs⟩

theorem inPlace_pageRequest (query : List (String × String)) (cursor : Option String) :
    InPlace (pageRequest query cursor) := by
  intro r
  obtain ⟨hmethod, hpath⟩ := inPlace_withQuery query r
  obtain ⟨hmethod', hpath'⟩ := inPlace_withQuery (cursorPairs cursor) (withQuery query r)
  exact ⟨hmethod'.trans hmethod, hpath'.trans hpath⟩

theorem inPlace_deleteQuery (kind : Kind) : InPlace (deleteQuery kind) := by
  unfold deleteQuery
  split
  · exact inPlace_withQuery _
  · exact inPlace_unedited

/-! ## Calls -/

variable {σ : Type} {m : Manager σ} {A : Method → UrlPath → Prop} {P : σ → Prop} {kind : Kind}
  {parents : List String} {id url : String} {x : σ}

/-- Requests with these methods and paths lead the network from states with the property to states
with it. -/
def Admits (m : Manager σ) (A : Method → UrlPath → Prop) (P : σ → Prop) : Prop :=
  ∀ r x, A r.method r.url.path → P x → P (m.network.send r x).2

def Allows (A : Method → UrlPath → Prop) (method : Method) (url : String) : Prop :=
  ∀ u, target url = .ok u → A method u.path

theorem submit_keeps (h : m.Admits A P) {r : Request} (hr : A r.method r.url.path) (hx : P x) :
    P (m.submit r x).2 := by
  show P (exchange m.network { r with authorization := some m.authorization } x).2
  have hsent := h { r with authorization := some m.authorization } x hr hx
  rw [exchange]
  split
  · split
    · rename_i hnetwork
      rwa [hnetwork] at hsent
    · rename_i hnetwork
      rwa [hnetwork] at hsent
  · exact hx

theorem send_keeps (h : m.Admits A P) {r : Request} (hr : A r.method r.url.path) (hx : P x) :
    P (m.send kind id r x).2 := by
  have hsent := submit_keeps h hr hx
  unfold send
  rcases hsubmit : m.submit r x with ⟨e | response, x'⟩
  · rwa [hsubmit] at hsent
  · rw [hsubmit] at hsent
    dsimp only
    split <;> exact hsent

theorem call_keeps (h : m.Admits A P) {method : Method} (hurl : Allows A method url)
    {edit : Request → Request} (hedit : InPlace edit) (hx : P x) :
    P (m.call kind id method url edit x).2 := by
  rw [call, request]
  cases htarget : target url with
  | error e => exact hx
  | ok u =>
    obtain ⟨hmethod, hpath⟩ := hedit (.plain method u)
    refine send_keeps h ?_ hx
    rw [hmethod, hpath]
    exact hurl u htarget

theorem page_keeps (h : m.Admits A P) (hurl : Allows A .get url)
    {query : List (String × String)} {cursor : Option String} (hx : P x) :
    P (m.page kind id url query cursor x).2 := by
  have hcall : P (m.call kind id .get url (pageRequest query cursor) x).2 :=
    call_keeps h hurl (inPlace_pageRequest query cursor) hx
  rw [page]
  rcases hanswer : m.call kind id .get url (pageRequest query cursor) x with ⟨e | response, x'⟩
  · rwa [hanswer] at hcall
  · rw [hanswer] at hcall
    dsimp only
    split <;> exact hcall

theorem pages?_keep (h : m.Admits A P) (hurl : Allows A .get url)
    {query : List (String × String)} {fuel : Nat} {cursor : Option String} (hx : P x) :
    P (m.pages? kind id url query fuel cursor x).2 := by
  induction fuel generalizing cursor x with
  | zero => exact hx
  | succ fuel ih =>
    have hpage : P (m.page kind id url query cursor x).2 := page_keeps h hurl hx
    rw [pages?]
    rcases hp : m.page kind id url query cursor x with ⟨e | page, x'⟩
    · rwa [hp] at hpage
    · rw [hp] at hpage
      dsimp only
      cases hnext : page.next? cursor with
      | none => exact hpage
      | some next =>
        have hrest := @ih x' (some next) hpage
        dsimp only
        split
        · rename_i hmore
          rwa [hmore] at hrest
        · exact hrest

/-! ## Operations -/

theorem list_keeps (h : m.Admits A P)
    (hurl : ∀ text, m.collectionUrl kind parents = .ok text → Allows A .get text) (hx : P x) :
    P (m.list kind parents x).2 := by
  rw [list, settle, list?]
  cases hcollection : m.collectionUrl kind parents with
  | error e => exact hx
  | ok text => exact pages?_keep h (hurl text hcollection) hx

theorem search_keeps (h : m.Admits A P)
    (hurl : Allows A .get (m.base ++ kind.api.root ++ "/search/query")) {tags : List TagPredicate}
    (hx : P x) : P (m.search kind tags x).2 := by
  rw [search, settle, search?]
  cases requireApi m.allowPassthrough kind with
  | error e => exact hx
  | ok _ => exact pages?_keep h hurl hx

theorem get_keeps (h : m.Admits A P)
    (hurl : ∀ text, m.objectUrl kind parents id = .ok text → Allows A .get text) (hx : P x) :
    P (m.get kind parents id x).2 := by
  rw [get]
  cases hobject : m.objectUrl kind parents id with
  | error e => exact hx
  | ok text =>
    have hcall : P (m.call kind id .get text unedited x).2 :=
      call_keeps h (hurl text hobject) inPlace_unedited hx
    dsimp only
    rcases hanswer : m.call kind id .get text unedited x with ⟨e | response, x'⟩
    · rwa [hanswer] at hcall
    · rw [hanswer] at hcall
      dsimp only
      split <;> exact hcall

theorem delete_keeps (h : m.Admits A P)
    (hurl : ∀ text, m.objectUrl kind parents id = .ok text → Allows A .delete text) (hx : P x) :
    P (m.delete kind parents id x).2 := by
  rw [delete]
  cases hobject : m.objectUrl kind parents id with
  | error e => exact hx
  | ok text => exact call_keeps h (hurl text hobject) (inPlace_deleteQuery kind) hx

/-- A replacement reads first and then writes. -/
theorem replace_keeps (h : m.Admits A P) (hget : Allows A .get url) (hput : Allows A .put url)
    {body : Json} (hx : P x) : P (m.replace kind id url body x).2 := by
  have hcall : P (m.call kind id .get url unedited x).2 :=
    call_keeps h hget inPlace_unedited hx
  rw [replace]
  rcases hanswer : m.call kind id .get url unedited x with ⟨e | response, x'⟩
  · rwa [hanswer] at hcall
  · rw [hanswer] at hcall
    dsimp only
    cases response.json? .whole with
    | none => exact hcall
    | some current => exact call_keeps h hput (inPlace_withBody _) hcall

/-- A patch of the policy API is one request. -/
theorem patch_keeps (h : m.Admits A P) (hkind : kind.api = .policy)
    (hurl : ∀ text, m.objectUrl kind parents id = .ok text → Allows A .patch text) {body : Json}
    (hx : P x) : P (m.patch kind parents id body x).2 := by
  rw [patch]
  cases hobject : m.objectUrl kind parents id with
  | error e => exact hx
  | ok text =>
    rw [hkind]
    exact call_keeps h (hurl text hobject) (inPlace_withBody body) hx

end Manager

end NetSweep
