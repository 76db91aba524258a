import NetSweep.Backend
import NetSweep.Http.Exchange
import NetSweep.Json.Printer
import NetSweep.Search

/-!
# The manager's client

A backend that a manager serves over HTTP.  An object's URL is the collection of its kind with
the enclosing ids in place, then its id; every id is one segment.  Lists and searches come in
pages: each page may name the cursor of the next one, and the last is the page that is empty, has
no cursor, or has the one that was asked for.

A server could go on with new cursors for ever, and then a list or search has no answer.  `list?`
and `search?` follow the cursors for a number of pages that is set for the client, and if the last
page is not among them they give none.  A backend has to give some answer all the same, so that is
set along with the number, and it can be any.
-/

namespace NetSweep

open Http

structure Manager.Connection where
  /-- the manager's address, with or without a scheme -/
  host : String
  username : String
  password : String
  /-- whether kinds of the manager API may be used -/
  allowPassthrough : Bool
  /-- whether the manager's certificate goes unchecked -/
  insecure : Bool
  /-- how long to wait for a response, in seconds -/
  timeout : Nat
deriving DecidableEq, Repr

def Manager.defaultTimeout : Nat := 60

def trimSlashes (text : String) : String :=
  String.ofList (text.toList.reverse.dropWhile (· = '/')).reverse

/-- The URL that all others begin with: an address without a scheme is taken to be secure. -/
def Manager.Connection.baseUrl (c : Manager.Connection) : String :=
  let host := trimSlashes c.host
  if "http://".toList.isPrefixOf host.toList ∨ "https://".toList.isPrefixOf host.toList then host
  else "https://" ++ host

/-- How far a client goes with a list or search. -/
structure Manager.Patience where
  /-- the most pages that it asks for -/
  limit : Nat
  /-- what a backend gives instead of the answer if there are more -/
  standIn : Answer (List Resource)

/-- Some pages, and if there are more, nothing was found. -/
def Manager.Patience.upTo (limit : Nat) : Manager.Patience := { limit, standIn := .ok [] }

/-- A client of a manager that is reached through a network. -/
structure Manager (σ : Type) where
  network : Network σ
  base : String
  authorization : String
  allowPassthrough : Bool
  patience : Manager.Patience

namespace Manager

variable {σ : Type} (m : Manager σ)

def connect (network : Network σ) (patience : Patience) (c : Connection) : Manager σ :=
  { network, base := c.baseUrl, authorization := basicCredentials c.username c.password
    allowPassthrough := c.allowPassthrough, patience }

/-! ## URLs -/

def encodeId (id : String) : String := String.ofList (percentEncode .segment id.toList)

def collectionPath (kind : Kind) (parents : List String) : String :=
  "/".intercalate (Kind.fill kind.collection (parents.map encodeId))

def collectionUrl (kind : Kind) (parents : List String) : Answer String :=
  match requireAccess m.allowPassthrough kind parents with
  | .error e => .error e
  | .ok () => .ok (m.base ++ kind.api.root ++ "/" ++ collectionPath kind parents)

def objectUrl (kind : Kind) (parents : List String) (id : String) : Answer String :=
  (m.collectionUrl kind parents).map fun url => url ++ "/" ++ encodeId id

/-! ## Requests -/

/-- Sends a request with the client's credentials, whatever the response's status. -/
def submit (r : Request) (s : σ) : Answer Response × σ :=
  let (result, s) := exchange m.network { r with authorization := some m.authorization } s
  (result.mapError .communication, s)

/-- The code that says an object is still referred to. -/
def inUseCode : Nat := 500030

structure Complaint where
  code : Option Nat
  message : Option String

def optNat? : Option Json → Option (Option Nat)
  | none | some .null => some none
  | some v => v.nat?.map some

def Complaint.parse? (body : String) : Option Complaint :=
  (Json.parseAs? (.record [("error_code", .whole), ("error_message", .whole)] false) body).bind
    fun v =>
      match v.fields? ["error_code", "error_message"] with
      | some [code, message] =>
        (optNat? code).bind fun code => (Json.optString? message).map fun message =>
          { code, message }
      | _ => none

def errorOf (kind : Kind) (id : String) (status : Nat) (body : String) : BackendError :=
  let complaint := Complaint.parse? body
  let code := complaint.bind Complaint.code
  let message := (complaint.bind Complaint.message).getD body
  if status = 404 then .notFound kind id
  else if status = 401 ∨ status = 403 then .unauthenticated message
  else if (status = 400 ∨ status = 409) ∧ code = some inUseCode then .inUse kind id message
  else .refused kind (some status) code message

/-- Sends a request about an object or collection; an unsuccessful response is an error. -/
def send (kind : Kind) (id : String) (r : Request) (s : σ) : Answer Response × σ :=
  match m.submit r s with
  | (.error e, s) => (.error e, s)
  | (.ok response, s) =>
    if isSuccess response.status then (.ok response, s)
    else (.error (errorOf kind id response.status response.text), s)

def request (method : Method) (url : String) : Answer Request :=
  match target url with
  | .ok url => .ok (.plain method url)
  | .error message => .error (.communication message)

def call (kind : Kind) (id : String) (method : Method) (url : String) (edit : Request → Request)
    (s : σ) : Answer Response × σ :=
  match request method url with
  | .error e => (.error e, s)
  | .ok r => m.send kind id (edit r) s

def unedited : Request → Request := id

def withBody (body : Json) (r : Request) : Request := { r with body := some body.render }

def withQuery (pairs : List (String × String)) (r : Request) : Request :=
  { r with url := r.url.withPairs pairs }

/-! ## Pages -/

structure Page where
  results : List Resource
  cursor : Option String
deriving DecidableEq, Repr

/-- The results of a page; a missing list is empty. -/
def resultsOf? : Option Json → Option (List Resource)
  | none => some []
  | some v => Resource.listOfJson? v

def Page.ofJson? (v : Json) : Option Page :=
  match v.fields? ["results", "cursor"] with
  | some [results, cursor] =>
    (resultsOf? results).bind fun results =>
      (Json.optString? cursor).map fun cursor => { results, cursor }
  | _ => none

def Page.shape : Json.Shape :=
  .record [("results", .items Resource.shape), ("cursor", .whole)] false

/-- The cursor to go on with after a page, given the one that was sent to get it. -/
def Page.next? (p : Page) (sent : Option String) : Option String :=
  p.cursor.bind fun next =>
    if p.results.isEmpty ∨ next = "" ∨ some next = sent then none else some next

def cursorPairs (cursor : Option String) : List (String × String) :=
  cursor.toList.map fun c => ("cursor", c)

def pageRequest (query : List (String × String)) (cursor : Option String) (r : Request) :
    Request := withQuery (cursorPairs cursor) (withQuery query r)

def page (kind : Kind) (id url : String) (query : List (String × String))
    (cursor : Option String) (s : σ) : Answer Page × σ :=
  match m.call kind id .get url (pageRequest query cursor) s with
  | (.error e, s) => (.error e, s)
  | (.ok response, s) =>
    match (response.json? Page.shape).bind Page.ofJson? with
    | none => (.error (.invalidResponse notDecoded), s)
    | some p => (.ok p, s)

/-- The results of all pages from the one of a cursor on; nothing if `fuel` pages are too few. -/
def pages? (kind : Kind) (id url : String) (query : List (String × String)) :
    (fuel : Nat) → (cursor : Option String) → σ → Option (Answer (List Resource)) × σ
  | 0, _, s => (none, s)
  | fuel + 1, cursor, s =>
    match m.page kind id url query cursor s with
    | (.error e, s) => (some (.error e), s)
    | (.ok p, s) =>
      match p.next? cursor with
      | none => (some (.ok p.results), s)
      | some next =>
        match pages? kind id url query fuel (some next) s with
        | (some (.ok more), s) => (some (.ok (p.results ++ more)), s)
        | other => other

/-! ## Operations -/

def versionRefused (status : Nat) : BackendError :=
  let text := "version query returned " ++ statusText status
  if status = 401 ∨ status = 403 then .unauthenticated text else .communication text

def versionOf? (response : Response) : Option String :=
  (response.json? (.record [("node_version", .whole)] false)).bind fun v =>
    match v.fields? ["node_version"] with
    | some [some (.string version)] => some version
    | _ => none

def version (s : σ) : Answer String × σ :=
  match request .get (m.base ++ "/api/v1/node/version") with
  | .error e => (.error e, s)
  | .ok r =>
    match m.submit r s with
    | (.error e, s) => (.error e, s)
    | (.ok response, s) =>
      if isSuccess response.status then
        match versionOf? response with
        | some version => (.ok version, s)
        | none => (.error (.invalidResponse notDecoded), s)
      else (.error (versionRefused response.status), s)

/-- The objects of a kind among those of a collection that several kinds share. -/
def ofKind (kind : Kind) (resources : List Resource) : List Resource :=
  if kind.sharesCollection then
    resources.filter (fun r => r.resourceType = some kind.backendType)
  else resources

/-- The objects of a kind inside their parents, if the client's patience is enough. -/
def list? (kind : Kind) (parents : List String) (s : σ) : Option (Answer (List Resource)) × σ :=
  match m.collectionUrl kind parents with
  | .error e => (some (.error e), s)
  | .ok url =>
    let (found, s) := m.pages? kind ("/".intercalate parents) url [] m.patience.limit none s
    (found.map (Except.map (ofKind kind)), s)

def get (kind : Kind) (parents : List String) (id : String) (s : σ) : Answer Resource × σ :=
  match m.objectUrl kind parents id with
  | .error e => (.error e, s)
  | .ok url =>
    match m.call kind id .get url unedited s with
    | (.error e, s) => (.error e, s)
    | (.ok response, s) =>
      match (response.json? Resource.shape).bind Resource.ofJson? with
      | some r => (.ok r, s)
      | none => (.error (.invalidResponse notDecoded), s)

/-- The parameters of a delete: a logical port has to be detached by it. -/
def deleteQuery (kind : Kind) : Request → Request :=
  if kind = .logicalPort then withQuery [("detach", "true")] else unedited

def delete (kind : Kind) (parents : List String) (id : String) (s : σ) : Answer Unit × σ :=
  match m.objectUrl kind parents id with
  | .error e => (.error e, s)
  | .ok url =>
    let (answer, s) := m.call kind id .delete url (deleteQuery kind) s
    (answer.map fun _ => (), s)

/-- Lays fields over an object as a whole: what is there now is read, changed and put back. -/
def replace (kind : Kind) (id url : String) (body : Json) (s : σ) : Answer Unit × σ :=
  match m.call kind id .get url unedited s with
  | (.error e, s) => (.error e, s)
  | (.ok response, s) =>
    match response.json? .whole with
    | none => (.error (.invalidResponse notDecoded), s)
    | some current =>
      let (answer, s) :=
        m.call kind id .put url (withBody (current.normalize.merge body)) s
      (answer.map fun _ => (), s)

/-- Lays fields over an object's.  The manager API takes whole objects only, with the revision
that is being replaced. -/
def patch (kind : Kind) (parents : List String) (id : String) (body : Json) (s : σ) :
    Answer Unit × σ :=
  match m.objectUrl kind parents id with
  | .error e => (.error e, s)
  | .ok url =>
    match kind.api with
    | .policy =>
      let (answer, s) := m.call kind id .patch url (withBody body) s
      (answer.map fun _ => (), s)
    | .manager => m.replace kind id url body s

/-- The objects of a kind, wherever they are, that meet every predicate, if the client's patience
is enough. -/
def search? (kind : Kind) (tags : List TagPredicate) (s : σ) :
    Option (Answer (List Resource)) × σ :=
  match requireApi m.allowPassthrough kind with
  | .error e => (some (.error e), s)
  | .ok () =>
    m.pages? kind "" (m.base ++ kind.api.root ++ "/search/query")
      [("query", Search.query kind tags)] m.patience.limit none s

/-! ## As a backend -/

/-- The answer of a list or search, or what stands in for it. -/
def settle (run : Option (Answer (List Resource)) × σ) : Answer (List Resource) × σ :=
  (run.1.getD m.patience.standIn, run.2)

def list (kind : Kind) (parents : List String) (s : σ) : Answer (List Resource) × σ :=
  m.settle (m.list? kind parents s)

def search (kind : Kind) (tags : List TagPredicate) (s : σ) : Answer (List Resource) × σ :=
  m.settle (m.search? kind tags s)

theorem list_of_list? {kind : Kind} {parents : List String} {s s' : σ}
    {answer : Answer (List Resource)} (h : m.list? kind parents s = (some answer, s')) :
    m.list kind parents s = (answer, s') := by
  rw [list, h]
  rfl

theorem search_of_search? {kind : Kind} {tags : List TagPredicate} {s s' : σ}
    {answer : Answer (List Resource)} (h : m.search? kind tags s = (some answer, s')) :
    m.search kind tags s = (answer, s') := by
  rw [search, h]
  rfl

def backend : Backend σ where
  allowsPassthrough := m.allowPassthrough
  version := m.version
  list := m.list
  get := m.get
  delete := m.delete
  patch := m.patch
  search := m.search

end Manager

end NetSweep
