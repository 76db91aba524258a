import NetSweep.Http.Exchange
import NetSweep.Manager
import NetSweep.Migration.Tags

/-!
# The destination's tagging service

The destination has one URL for each tag of each object, and a tag is added by a request to it.
The collection is part of the service's path as it is; id and tag are one segment each.
-/

namespace NetSweep.Migration

open Http

inductive TagServiceError where
  /-- there was no response -/
  | communication (url message : String)
  /-- the response was no success -/
  | status (url : String) (code : Nat) (body : String)
deriving DecidableEq, Repr

def TagServiceError.message : TagServiceError → String
  | communication url text => "request to " ++ url ++ " failed: " ++ text
  | status url code body => url ++ " returned " ++ Decimal.natText code ++ ": " ++ body

structure TagService (σ : Type) where
  network : Network σ
  base : String
  /-- the session's token, if there is a session -/
  token : Option String

namespace TagService

variable {σ : Type}

def connect (network : Network σ) (url : String) (token : Option String) : TagService σ :=
  { network, base := trimSlashes url, token }

def tagUrl (t : TagService σ) (collection id tag : String) : String :=
  t.base ++ "/v2.0/" ++ collection ++ "/" ++ Manager.encodeId id ++ "/tags/" ++ Manager.encodeId tag

def isHeaderValue (text : String) : Bool :=
  text.toList.all fun c => c = '\t' || (0x20 ≤ c.toNat && c.toNat ≠ 0x7F)

/-- The credentials that a URL brings along, as the value of a header. -/
def loginOf (url : Url) : Option String :=
  url.credentials?.map fun (user, password) => basicCredentials user (password.getD "")

def request (t : TagService σ) (url : String) : Except String Request :=
  match target url with
  | .error message => .error message
  | .ok url =>
    if t.token.all isHeaderValue then
      .ok { method := .put, url, authorization := loginOf url, token := t.token, body := none }
    else .error notBuilt

def addTag (t : TagService σ) (collection id tag : String) (s : σ) :
    Except TagServiceError Unit × σ :=
  let url := t.tagUrl collection id tag
  match t.request url with
  | .error message => (.error (.communication url message), s)
  | .ok r =>
    match exchange t.network r s with
    | (.error message, s) => (.error (.communication url message), s)
    | (.ok response, s) =>
      if isSuccess response.status then (.ok (), s)
      else (.error (.status url response.status response.text), s)

def endpoint (t : TagService σ) : Tagger σ where
  addTag collection id tag s :=
    let (result, s) := t.addTag collection id tag s
    (result.mapError TagServiceError.message, s)

end TagService

end NetSweep.Migration
