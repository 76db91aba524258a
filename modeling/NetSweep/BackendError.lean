import NetSweep.Kind
import NetSweep.Decimal.Shortest
import NetSweep.Json.Numeral

/-!
# Errors of the backend

Cleanup has to tell "already gone" and "still in use" from real failures, so these two are causes
of their own.  `message` is the wording of each cause.
-/

namespace NetSweep

open Decimal (natText)

inductive BackendError where
  /-- the object does not exist, or no longer -/
  | notFound (kind : Kind) (id : String)
  /-- other objects still use the object -/
  | inUse (kind : Kind) (id message : String)
  /-- the backend refused or failed the operation for any other reason -/
  | refused (kind : Kind) (status errorCode : Option Nat) (message : String)
  /-- credentials were missing or not accepted -/
  | unauthenticated (message : String)
  /-- the request got no response -/
  | communication (message : String)
  /-- the response could not be understood -/
  | invalidResponse (message : String)
  /-- the kind needs passthrough, which is turned off -/
  | passthroughDisabled (kind : Kind)
  /-- the kind needs another number of enclosing ids -/
  | wrongParentCount (kind : Kind) (expected got : Nat)
deriving DecidableEq, Repr

namespace BackendError

/-- The status and code of a refusal, as they follow "failed". -/
def statusText : Option Nat → Option Nat → String
  | some status, some code => " (" ++ natText status ++ ", error " ++ natText code ++ ")"
  | some status, none => " (" ++ natText status ++ ")"
  | none, some code => " (error " ++ natText code ++ ")"
  | none, none => ""

def message : BackendError → String
  | notFound kind id => kind.name ++ " not found: " ++ id
  | inUse kind id text => kind.name ++ " " ++ id ++ " is in use: " ++ text
  | refused kind status code text =>
    "backend operation on " ++ kind.name ++ " failed" ++ statusText status code ++ ": " ++ text
  | unauthenticated text => "backend rejected credentials: " ++ text
  | communication text => "failed to communicate with backend: " ++ text
  | invalidResponse text => "unexpected response from backend: " ++ text
  | passthroughDisabled kind =>
    kind.name ++ " is only available through the passthrough API, which is disabled"
  | wrongParentCount kind expected got =>
    kind.name ++ " needs " ++ natText expected ++ " parent id(s), got " ++ natText got

def isNotFound : BackendError → Bool
  | notFound .. => true
  | _ => false

def isInUse : BackendError → Bool
  | inUse .. => true
  | _ => false

def isTransient : BackendError → Bool
  | communication _ => true
  | refused _ (some status) _ _ => 500 ≤ status
  | _ => false

end BackendError

end NetSweep
