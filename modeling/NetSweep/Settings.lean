import NetSweep.Cleanup.Action
import NetSweep.LogSink
import NetSweep.Manager
import NetSweep.Toml.Parser

/-!
# Settings

What a run can be told in a file: how to reach the manager, where the orchestrator's ids come
from, how to clean up, and where the log goes.  Every section and almost every field may be left
out.  A field that is not known is refused, so that a slip of the pen does not pass for a default;
the log's section alone is open, as its fields depend on its mode.

A section is a table or an array that holds its fields in order.
-/

namespace NetSweep

structure Settings.Manager where
  host : Option String
  username : String
  password : String
  allowPassthrough : Bool
  insecure : Bool
  /-- in seconds -/
  timeout : Nat
deriving DecidableEq, Repr

/-- Where the orchestrator's ids come from.  With neither set, cleanup goes by tags alone. -/
structure Settings.Database where
  connection : Option String
  snapshot : Option String
deriving DecidableEq, Repr

structure Settings.Cleanup where
  domain : String
  dryRun : Bool
  /-- the scope of the tag that marks an object as created by the orchestrator -/
  scope : String
  policies : Policies
deriving DecidableEq, Repr

structure Settings where
  manager : Settings.Manager
  database : Settings.Database
  cleanup : Settings.Cleanup
  log : Log.Sink
deriving DecidableEq, Repr

namespace Settings

def Manager.default : Manager :=
  { host := none, username := "admin", password := "", allowPassthrough := true, insecure := false
    timeout := NetSweep.Manager.defaultTimeout }

def Database.default : Database := { connection := none, snapshot := none }

def Cleanup.default : Cleanup :=
  { domain := defaultDomain, dryRun := false, scope := createdScope, policies := [] }

def default : Settings :=
  { manager := .default, database := .default, cleanup := .default, log := .default }

/-! ## Reading -/

/-- The fields of a section, by position.  Beyond its last field an array may go on. -/
def section? (names : List String) : Json → Option (List (Option Json))
  | .object members =>
    if members.all (fun m => names.contains m.1) then
      some (names.map fun n => Assoc.find? n members)
    else none
  | .array items => some ((List.range names.length).map (items[·]?))
  | _ => none

def fieldOr? {α : Type} (default : α) (read : Json → Option α) : Option Json → Option α
  | none => some default
  | some v => read v

/-- Reads a field that may be missing.  An array has to reach it all the same. -/
def optField? (whole : Json) (v : Option Json) : Option (Option String) :=
  match v with
  | none => if whole.array?.isSome then none else some none
  | some v => v.string?.map some

def Manager.ofJson? (v : Json) : Option Manager :=
  match section? ["host", "username", "password", "allow_passthrough", "insecure",
    "timeout_secs"] v with
  | some [host, username, password, allow, insecure, timeout] => do
    let base := Manager.default
    let host ← optField? v host
    let username ← fieldOr? base.username Json.string? username
    let password ← fieldOr? base.password Json.string? password
    let allowPassthrough ← fieldOr? base.allowPassthrough Json.bool? allow
    let insecure ← fieldOr? base.insecure Json.bool? insecure
    let timeout ← fieldOr? base.timeout Json.nat? timeout
    pure { host, username, password, allowPassthrough, insecure, timeout }
  | _ => none

def Database.ofJson? (v : Json) : Option Database :=
  match section? ["connection", "snapshot"] v with
  | some [connection, snapshot] =>
    (optField? v connection).bind fun connection =>
      (optField? v snapshot).map fun snapshot => { connection, snapshot }
  | _ => none

/-- The name of a policy: a string, or a table whose one key is bound to an empty table or
array. -/
def policyName? : Json → Option String
  | .string s => some s
  | .object [(name, .object [])] | .object [(name, .array [])] => some name
  | _ => none

def policies? (v : Json) : Option Policies :=
  v.object?.bind fun members =>
    (members.mapM fun m =>
      (Category.ofName? m.1).bind fun c =>
        ((policyName? m.2).bind FailurePolicy.ofName?).map fun p => (c, p)).map Assoc.ofList

def Cleanup.ofJson? (v : Json) : Option Cleanup :=
  match section? ["domain", "dry_run", "provenance_scope", "policies"] v with
  | some [domain, dryRun, scope, policies] => do
    let base := Cleanup.default
    let domain ← fieldOr? base.domain Json.string? domain
    let dryRun ← fieldOr? base.dryRun Json.bool? dryRun
    let scope ← fieldOr? base.scope Json.string? scope
    let policies ← fieldOr? base.policies policies? policies
    pure { domain, dryRun, scope, policies }
  | _ => none

def ofJson? (v : Json) : Option Settings :=
  match section? ["nsx", "database", "cleanup", "log"] v with
  | some [manager, database, cleanup, log] => do
    let manager ← fieldOr? Manager.default Manager.ofJson? manager
    let database ← fieldOr? Database.default Database.ofJson? database
    let cleanup ← fieldOr? Cleanup.default Cleanup.ofJson? cleanup
    let log ← fieldOr? Log.Sink.default Log.Sink.ofJson? log
    pure { manager, database, cleanup, log }
  | _ => none

def parse? (text : String) : Option Settings := (Toml.parse? text).bind ofJson?

inductive Error where
  | unreadable (path : String) (cause : FileError)
  | malformed (path : String)
  | noHost
deriving DecidableEq, Repr

def Error.message : Error → String
  | unreadable path _ => "read \"" ++ path ++ "\""
  | malformed path => "parse \"" ++ path ++ "\""
  | noHost => "no NSX manager address given (use --policy-ip or [nsx] host)"

def Error.fullMessage : Error → String
  | unreadable path cause => (unreadable path cause).message ++ ": " ++ cause.message
  | malformed path => (malformed path).message ++ ": not a valid settings file"
  | noHost => noHost.message

def ofFile (f : Files) (path : String) : Except Error Settings :=
  match f.read path with
  | .error cause => .error (.unreadable path cause)
  | .ok text =>
    match parse? text with
    | none => .error (.malformed path)
    | some s => .ok s

/-! ## Use -/

def connection (s : Settings) : Except Error NetSweep.Manager.Connection :=
  match s.manager.host with
  | none => .error .noHost
  | some host =>
    .ok { host, username := s.manager.username, password := s.manager.password
          allowPassthrough := s.manager.allowPassthrough, insecure := s.manager.insecure
          timeout := s.manager.timeout }

def cleanupConfig (s : Settings) : NetSweep.Cleanup.Config :=
  { domain := s.cleanup.domain, marker := .any s.cleanup.scope, policies := s.cleanup.policies
    dryRun := s.cleanup.dryRun }

def withLogLevel (s : Settings) (level : Log.Level) : Settings :=
  { s with log := { s.log with level } }

end Settings

end NetSweep
