import NetSweep.Cleanup.Sweep
import NetSweep.CommandLine
import NetSweep.Snapshot

/-!
# The program

A run reads its settings, opens its log, asks the manager for its version, reads the
orchestrator's ids, and cleans up everything.  The first step that fails ends it.  In particular
nothing is listed or changed unless the ids that the settings name were read.
-/

namespace NetSweep.Program

open Http

def name : String := "nsx-cleanup"

def versionText : String := name ++ " 0.1.0"

/-- The part of the program whose records tell what was cleaned up. -/
def sweepComponent : String := "Reconciler"

/-- What a run works with. -/
structure Surroundings (σ : Type) where
  network : Network σ
  patience : Manager.Patience
  /-- the ids in a database, if it can be read -/
  database : String → Option Authority

inductive Failure where
  | settings (cause : Settings.Error)
  | logFile (path : String) (cause : FileError)
  | unreachable (base : String) (cause : BackendError)
  /-- the settings name two sources of ids -/
  | twoSources
  | database (url : String)
  | snapshot (cause : SnapshotError)
  | cleanup (cause : CleanupError)
deriving DecidableEq, Repr

def hint (e : BackendError) : String :=
  if e.isTransient then "the manager may be busy or unreachable, retry shortly"
  else "check the address and credentials, then retry"

def logFileMessage (path : String) : String := "open log file \"" ++ path ++ "\""

def Failure.message : Failure → String
  | settings cause => cause.fullMessage
  | logFile path cause =>
    "setting up logging: " ++ logFileMessage path ++ ": " ++ cause.message
  | unreachable base cause =>
    "could not reach the NSX manager at " ++ base ++ "; " ++ hint cause ++ ": " ++ cause.message
  | twoSources => "[database] connection and snapshot are mutually exclusive"
  | database url => "connecting to orchestrator database: " ++ url ++ " cannot be used"
  | snapshot cause => cause.fullMessage
  | cleanup cause => "cleanup failed: " ++ cause.message ++ ": " ++ cause.causeMessage

structure Outcome (σ : Type) where
  result : Except Failure Report
  files : Files
  network : σ

variable {σ : Type}

def authority (w : Surroundings σ) (f : Files) (d : Settings.Database) :
    Except Failure (Option Authority) :=
  match d.connection, d.snapshot with
  | some _, some _ => .error .twoSources
  | some url, none =>
    match w.database url with
    | some a => .ok (some a)
    | none => .error (.database url)
  | none, some path =>
    match Snapshot.load f path with
    | .ok a => .ok (some a)
    | .error e => .error (.snapshot e)
  | none, none => .ok none

def connected (m : Manager σ) (version : String) : Log.Record :=
  Log.info "connected to NSX manager"
    [("url", m.base), ("version", version),
     ("passthrough", if m.allowPassthrough then "true" else "false")]

def loaded : Option Authority → List Log.Record
  | none => [Log.info "no orchestrator database given; matching by tag only" []]
  | some a =>
    Authority.Model.all.map fun m =>
      Log.info "loaded orchestrator ids"
        [("model", m.name), ("count", Decimal.natText (a.idsOf m).length)]

abbrev Entry := Option String × Log.Record

def own (records : List Log.Record) : List Entry := records.map (none, ·)

/-- Cleans up everything at a manager that answered its version query. -/
def sweep (m : Manager σ) (config : Cleanup.Config) (a : Option Authority) (s : σ) :
    Except Failure Report × List Entry × σ :=
  let c := Sweep.standard m.backend (a.map Authority.knows) config
  let (result, t) := c.sweepAll (.start s)
  (result.mapError .cleanup, t.log.map (some sweepComponent, ·), t.backend)

/-- Everything a run does once its log is open. -/
def work (w : Surroundings σ) (settings : Settings) (f : Files) (s : σ) :
    Except Failure Report × List Entry × σ :=
  match settings.connection with
  | .error e => (.error (.settings e), [], s)
  | .ok connection =>
    let m := Manager.connect w.network w.patience connection
    match m.version s with
    | (.error e, s) => (.error (.unreachable m.base e), [], s)
    | (.ok version, s) =>
      match authority w f settings.database with
      | .error e => (.error e, own [connected m version], s)
      | .ok a =>
        let (result, entries, s) := sweep m settings.cleanupConfig a s
        (result, own (connected m version :: loaded a) ++ entries, s)

def run (w : Surroundings σ) (c : CommandLine) (f : Files) (s : σ) : Outcome σ :=
  match c.settings f with
  | .error e => { result := .error (.settings e), files := f, network := s }
  | .ok settings =>
    match settings.log.openIn f with
    | (.error cause, f) =>
      let path := match settings.log.destination with
        | .terminal => ""
        | .file path _ => path
      { result := .error (.logFile path cause), files := f, network := s }
    | (.ok (), f) =>
      let (result, entries, s) := work w settings f s
      { result, files := settings.log.write name entries f, network := s }

end NetSweep.Program
