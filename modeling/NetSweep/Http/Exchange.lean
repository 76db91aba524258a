import NetSweep.Http.Base64
import NetSweep.Http.Status
import NetSweep.Http.Url
import NetSweep.Json.Parser

/-!
# Requests and responses

A network is a state machine that is given requests and gives back responses, or nothing when no
response arrives.  Only URLs that name a host, and of those only HTTP ones that fit a request, get
as far as the network.
-/

namespace NetSweep.Http

inductive Method where
  | get | put | patch | delete
deriving DecidableEq, Repr

def Method.name : Method → String
  | get => "GET"
  | put => "PUT"
  | patch => "PATCH"
  | delete => "DELETE"

structure Request where
  method : Method
  url : Url
  /-- the credentials, encoded -/
  authorization : Option String
  /-- the token of a session -/
  token : Option String
  body : Option String
deriving DecidableEq, Repr

def Request.plain (method : Method) (url : Url) : Request :=
  { method, url, authorization := none, token := none, body := none }

def basicCredentials (user password : String) : String :=
  "Basic " ++ String.ofList (base64 (Text.utf8Bytes (user ++ ":" ++ password)))

/-- A response; it has no body if that ended too early. -/
structure Response where
  status : Nat
  body : Option (List UInt8)
deriving DecidableEq, Repr

def Response.json? (shape : Json.Shape) (r : Response) : Option Json :=
  r.body.bind fun bytes => (Text.text? bytes).bind (Json.parseAs? shape)

def Response.text (r : Response) : String := (r.body.map Text.textLossy).getD ""

/-- Something that answers requests.  No response means that none arrived. -/
structure Network (σ : Type) where
  send : Request → σ → Option Response × σ

namespace Network

variable {σ : Type}

def down : Network σ where
  send _ s := (none, s)

/-- A network that also keeps the requests it was given, oldest first. -/
def recorded (n : Network σ) : Network (σ × List Request) where
  send r s :=
    let (response, next) := n.send r s.1
    (response, next, s.2 ++ [r])

@[simp] theorem down_send (r : Request) (s : σ) : (down : Network σ).send r s = (none, s) := rfl

@[simp] theorem recorded_send_snd (n : Network σ) (r : Request) (s : σ × List Request) :
    ((n.recorded).send r s).2.2 = s.2 ++ [r] := rfl

end Network

/-! ## Failures -/

def notBuilt : String := "builder error"

def notFetchable (url : Url) : String := notBuilt ++ " for url (" ++ url.text ++ ")"

def notSent (url : Url) : String := "error sending request for url (" ++ url.text ++ ")"

def notDecoded : String := "error decoding response body"

def target (text : String) : Except String Url :=
  match Url.parse? text with
  | none => .error notBuilt
  | some url => if url.hasHost then .ok url else .error (notFetchable url)

/-- Sends a request, or says why there is no response. -/
def exchange {σ : Type} (n : Network σ) (r : Request) (s : σ) : Except String Response × σ :=
  if r.url.isHttp && r.url.fitsRequest then
    match n.send r s with
    | (some response, s) => (.ok response, s)
    | (none, s) => (.error (notSent r.url), s)
  else (.error (notFetchable r.url), s)

end NetSweep.Http
