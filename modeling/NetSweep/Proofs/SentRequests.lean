import NetSweep.Http.Script
import NetSweep.Proofs.DryRun

/-!
# One call, one request

A call of the client sends one request, with its credentials, unless there is none to send; and
what it answers is what the response to that request says.
-/

namespace NetSweep

open Http

/-! ## Networks -/

namespace Http

/-- The request gets as far as the network. -/
def Request.Sendable (r : Request) : Prop := r.url.isHttp = true ∧ r.url.fitsRequest = true

instance (r : Request) : Decidable r.Sendable :=
  inferInstanceAs (Decidable (r.url.isHttp = true ∧ r.url.fitsRequest = true))

namespace Network

variable {σ : Type} (n : Network σ)

def responses : List Request → σ → List (Option Response)
  | [], _ => []
  | r :: rs, s => (n.send r s).1 :: responses rs (n.send r s).2

def after : List Request → σ → σ
  | [], s => s
  | r :: rs, s => after rs (n.send r s).2

end Network

def received (r : Request) : Option Response → Except String Response
  | some response => .ok response
  | none => .error (notSent r.url)

/-- An exchange adds its request to those that are kept, unless it cannot be sent. -/
theorem exchange_recorded {σ : Type} (n : Network σ) (r : Request) (s : σ) (sent : List Request) :
    exchange n.recorded r (s, sent) =
      if r.Sendable then (received r (n.send r s).1, (n.send r s).2, sent ++ [r])
      else (.error (notFetchable r.url), s, sent) := by
  have hbool : (r.url.isHttp && r.url.fitsRequest) = true ↔ r.Sendable := Bool.and_eq_true_iff
  have hsend : n.recorded.send r (s, sent) = ((n.send r s).1, (n.send r s).2, sent ++ [r]) := rfl
  by_cases h : r.Sendable
  · rw [exchange, if_pos (hbool.2 h), if_pos h, hsend]
    cases (n.send r s).1 <;> rfl
  · rw [exchange, if_neg (mt hbool.1 h), if_neg h]

theorem exists_url_of_any {text : String} {q : Url → Bool}
    (h : (target text).toOption.any q = true) : ∃ u, target text = .ok u ∧ q u = true := by
  cases htarget : target text with
  | error message =>
    rw [htarget] at h
    cases h
  | ok u =>
    rw [htarget] at h
    exact ⟨u, rfl, h⟩

theorem exists_url_of_isSome {text : String} (h : (target text).toOption.isSome = true) :
    ∃ u, target text = .ok u := by
  rw [← Option.any_true] at h
  obtain ⟨u, hurl, -⟩ := exists_url_of_any h
  exact ⟨u, hurl⟩

end Http

namespace Manager

variable {σ : Type} {m : Manager σ} {kind : Kind} {id url : String} {u : Url}

def signed (m : Manager σ) (r : Request) : Request :=
  { r with authorization := some m.authorization }

def answerOf (kind : Kind) (id : String) (r : Request) : Option Response → Answer Response
  | none => .error (.communication (notSent r.url))
  | some response =>
    if isSuccess response.status then .ok response
    else .error (errorOf kind id response.status response.text)

/-- A response that is a success is one whatever was asked. -/
theorem answerOf_ok {kind' : Kind} {id' : String} {r r' : Request} {x : Option Response}
    {response : Response} (h : answerOf kind id r x = .ok response) :
    answerOf kind' id' r' x = .ok response := by
  cases x with
  | none => cases h
  | some response =>
    rw [answerOf] at h ⊢
    split at h
    · rename_i hsuccess
      rw [if_pos hsuccess, h]
    · cases h

theorem send_recorded (r : Request) (s : σ) (sent : List Request) :
    m.recorded.send kind id r (s, sent) =
      if (m.signed r).Sendable then
        (answerOf kind id (m.signed r) (m.network.send (m.signed r) s).1,
          (m.network.send (m.signed r) s).2, sent ++ [m.signed r])
      else (.error (.communication (notFetchable (m.signed r).url)), s, sent) := by
  have hsubmit : m.recorded.submit r (s, sent) =
      ((exchange m.network.recorded (m.signed r) (s, sent)).1.mapError .communication,
        (exchange m.network.recorded (m.signed r) (s, sent)).2) := rfl
  rw [send, hsubmit, exchange_recorded]
  by_cases h : (m.signed r).Sendable
  · rw [if_pos h, if_pos h]
    cases (m.network.send (m.signed r) s).1 with
    | none => rfl
    | some response =>
      dsimp only [received, Except.mapError, answerOf]
      split <;> rfl
  · rw [if_neg h, if_neg h]
    rfl

/-- A call sends the one request that it was edited to, with the client's credentials. -/
theorem call_recorded (hurl : target url = .ok u) (method : Method) (edit : Request → Request)
    (s : σ) (sent : List Request) :
    m.recorded.call kind id method url edit (s, sent) =
      if (m.signed (edit (.plain method u))).Sendable then
        (answerOf kind id (m.signed (edit (.plain method u)))
            (m.network.send (m.signed (edit (.plain method u))) s).1,
          (m.network.send (m.signed (edit (.plain method u))) s).2,
          sent ++ [m.signed (edit (.plain method u))])
      else
        (.error (.communication (notFetchable (m.signed (edit (.plain method u))).url)), s,
          sent) := by
  rw [call, request, hurl]
  exact send_recorded _ s sent

theorem call_of_no_target {message : String} (hurl : target url = .error message) (method : Method)
    (edit : Request → Request) (s : σ) :
    m.call kind id method url edit s = (.error (.communication message), s) := by
  rw [call, request, hurl]

/-! ## Scripts -/

def patient : Manager Script :=
  { network := Script.network, base := "http://nsx", authorization := "", allowPassthrough := true
    patience := .upTo 4 }

def responding (text : String) : Script.Rule :=
  { only := none, keep := false
    reply := .respond { status := 200, body := some (Text.utf8Bytes text) } }

end Manager

end NetSweep
