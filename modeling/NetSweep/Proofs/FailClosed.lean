import Mathlib.Data.List.Basic
import NetSweep.Http.Script
import NetSweep.Program
import NetSweep.Proofs.ClientRequests

/-!
# Start-up fails closed

Before anything is listed, the settings have been read, the log is open, the manager has told its
version, and the ids were read from the one source that is named.  If one of these fails, that
is all: at most the version was asked for.  So the ids that are to narrow a cleanup are never
missing by accident.
-/

namespace NetSweep

namespace CommandLine

/-- Options that are understood name at most one source of ids. -/
theorem read_one_source {words : List String} {c : CommandLine} {seen : List Flag}
    {d : CommandLine} (h : c.read seen words = .run d) :
    ¬(d.connection.isSome ∧ d.snapshot.isSome) := by
  have hfinish : ∀ c : CommandLine, c.finish = .run d →
      ¬(d.connection.isSome ∧ d.snapshot.isSome) := by
    intro c hc
    rw [finish] at hc
    split at hc
    · cases hc
    · rename_i hone
      obtain rfl := Request.run.inj hc
      exact hone
  have hshort : ∀ letters, readShort letters ≠ .run d := by
    intro letters
    unfold readShort
    split <;> nofun
  -- The three cases that go on are a switch, an option with its value, and an option whose value
  -- is the next word.
  fun_induction read c seen words with
  | case1 | case2 => exact hfinish _ h
  | case5 => exact absurd h (hshort _)
  | case10 _ _ _ _ _ _ _ _ _ _ _ ih => exact ih h
  | case12 _ _ _ _ _ _ _ _ _ _ _ _ _ ih => exact ih h
  | case15 _ _ _ _ _ _ _ _ _ _ _ _ _ _ ih => exact ih h
  | _ => cases h

theorem parse_one_source {words : List String} {password : Option String} {c : CommandLine}
    (h : parse words password = .run c) : ¬(c.connection.isSome ∧ c.snapshot.isSome) := by
  rw [parse] at h
  split at h
  · rename_i d hread
    have hone := read_one_source hread
    obtain rfl := Request.run.inj h
    exact hone
  · rename_i hother
    exact absurd h (hother c)

def fileSettings (c : CommandLine) (f : Files) : Except Settings.Error Settings :=
  match c.config with
  | none => .ok .default
  | some path => Settings.ofFile f path

theorem settings_eq (c : CommandLine) (f : Files) :
    c.settings f = (c.fileSettings f).map c.override := by
  rw [settings, fileSettings]
  cases c.config <;> rfl

end CommandLine

namespace Program

open Http

variable {σ : Type}

/-! ## Sources of ids -/

inductive Source where
  | database (url : String)
  | snapshot (path : String)
deriving DecidableEq, Repr

namespace Source

def load (w : Surroundings σ) (f : Files) : Source → Except Failure Authority
  | database url =>
    match w.database url with
    | some a => .ok a
    | none => .error (.database url)
  | snapshot path => (Snapshot.load f path).mapError .snapshot

def named (connection snapshot : Option String) : List Source :=
  connection.toList.map database ++ Option.toList (snapshot.map Source.snapshot)

/-- The sources that count: those that options name, or else all that the settings file names. -/
def given (c : CommandLine) (d : Settings.Database) : List Source :=
  match named c.connection c.snapshot with
  | [] => named d.connection d.snapshot
  | sources => sources

theorem named_database {c : CommandLine} (h : ¬(c.connection.isSome ∧ c.snapshot.isSome))
    (d : Settings.Database) :
    named (c.database d).connection (c.database d).snapshot = given c d := by
  rw [given, CommandLine.database]
  cases hconnection : c.connection with
  | none => cases c.snapshot <;> rfl
  | some url =>
    cases hsnapshot : c.snapshot with
    | none => rfl
    | some path =>
      rw [hconnection, hsnapshot] at h
      exact absurd ⟨rfl, rfl⟩ h

end Source

/-- The authority of some sources: none without a source, and with one what that holds. -/
inductive Loaded (w : Surroundings σ) (f : Files) : List Source → Option Authority → Prop
  | none : Loaded w f [] none
  | source {source : Source} {a : Authority} (h : source.load w f = .ok a) :
      Loaded w f [source] (some a)

theorem Loaded.isSome {w : Surroundings σ} {f : Files} {sources : List Source}
    {a : Option Authority} (h : Loaded w f sources a) (hsources : sources ≠ []) :
    a.isSome = true := by
  cases h with
  | none => exact absurd rfl hsources
  | source => rfl

theorem loaded_of_authority {w : Surroundings σ} {f : Files} {d : Settings.Database}
    {a : Option Authority} (h : authority w f d = .ok a) :
    Loaded w f (Source.named d.connection d.snapshot) a := by
  rw [authority] at h
  cases hconnection : d.connection with
  | none =>
    cases hsnapshot : d.snapshot with
    | none =>
      rw [hconnection, hsnapshot] at h
      obtain rfl := Except.ok.inj h
      exact .none
    | some path =>
      simp only [hconnection, hsnapshot] at h
      split at h
      · rename_i ids hload
        obtain rfl := Except.ok.inj h
        refine .source ?_
        rw [Source.load, hload]
        rfl
      · cases h
  | some url =>
    cases hsnapshot : d.snapshot with
    | none =>
      simp only [hconnection, hsnapshot] at h
      split at h
      · rename_i ids hload
        obtain rfl := Except.ok.inj h
        refine .source ?_
        rw [Source.load, hload]
      · cases h
    | some path =>
      rw [hconnection, hsnapshot] at h
      cases h

theorem authority_error {w : Surroundings σ} {f : Files} {d : Settings.Database} {e : Failure}
    (h : authority w f d = .error e) (cause : CleanupError) : e ≠ .cleanup cause := by
  unfold authority at h
  split at h
  · cases h
    nofun
  · split at h
    · cases h
    · cases h
      nofun
  · split at h
    · cases h
    · cases h
      nofun
  · cases h

/-! ## The version query -/

/-- The one request of start-up. -/
structure Probe {τ : Type} (m : Manager τ) (r : Request) : Prop where
  method : r.method = .get
  url : target (m.base ++ "/api/v1/node/version") = .ok r.url
  credentials : r.authorization = some m.authorization
  body : r.body = none

/-- The version query sends one request, or there is none to send and it fails. -/
theorem version_sends {m : Manager (σ × List Request)} {network : Network σ}
    (hm : m.network = network.recorded) (x : σ × List Request) :
    (∃ r, Probe m r ∧ (m.version x).2.2 = x.2 ++ [r]) ∨
      (∃ e, (m.version x).1 = .error e) ∧ (m.version x).2.2 = x.2 := by
  rw [Manager.version, Manager.request]
  cases htarget : target (m.base ++ "/api/v1/node/version") with
  | error e => exact .inr ⟨⟨_, rfl⟩, rfl⟩
  | ok url =>
    let r : Request := { Request.plain .get url with authorization := some m.authorization }
    have hprobe : Probe m r := ⟨rfl, htarget, rfl, rfl⟩
    have hsubmit : m.submit (.plain .get url) x =
        ((exchange network.recorded r x).1.mapError .communication,
          (exchange network.recorded r x).2) := by
      rw [Manager.submit, hm]
    have hsends := exchange_sends network r x
    dsimp only
    rw [hsubmit]
    rcases hexchange : exchange network.recorded r x with ⟨e | response, y⟩
    · rw [hexchange] at hsends
      rcases hsends with hsent | ⟨-, hsent⟩
      · exact .inl ⟨r, hprobe, hsent⟩
      · exact .inr ⟨⟨_, rfl⟩, hsent⟩
    · rw [hexchange] at hsends
      rcases hsends with hsent | ⟨⟨e, herror⟩, -⟩
      · refine .inl ⟨r, hprobe, ?_⟩
        dsimp only [Except.mapError]
        split
        · split <;> exact hsent
        · exact hsent
      · cases herror

/-! ## Runs -/

/-- What start-up finds out. -/
structure Found (σ : Type) where
  /-- the settings without the options -/
  file : Settings
  connection : Manager.Connection
  /-- the files once the log is open -/
  files : Files
  version : String
  authority : Option Authority
  /-- the network after the version query -/
  network : σ

def Found.settings {σ : Type} (found : Found σ) (c : CommandLine) : Settings :=
  c.override found.file

/-- Every step of start-up goes well. -/
structure Starts (w : Surroundings σ) (c : CommandLine) (f : Files) (x : σ) (found : Found σ) :
    Prop where
  read : c.fileSettings f = .ok found.file
  opened : (found.settings c).log.openIn f = (.ok (), found.files)
  host : (found.settings c).connection = .ok found.connection
  answered : (Manager.connect w.network w.patience found.connection).version x =
    (.ok found.version, found.network)
  loaded : Loaded w found.files (Source.given c found.file.database) found.authority

/-- Start-up ended with an error, and sent nothing but at most the version query. -/
structure Stopped (w : Surroundings (σ × List Request)) (c : CommandLine) (f : Files)
    (before : List Request) (result : Except Failure Report) (requests : List Request) :
    Prop where
  failed : ∃ failure, result = .error failure ∧ ∀ cause, failure ≠ .cleanup cause
  sent : requests = before ∨
    ∃ file connection r, c.fileSettings f = .ok file ∧
      (c.override file).connection = .ok connection ∧
      Probe (Manager.connect w.network w.patience connection) r ∧ requests = before ++ [r]

def Found.manager (found : Found σ) (w : Surroundings σ) : Manager σ :=
  Manager.connect w.network w.patience found.connection

def Found.sweep (found : Found σ) (w : Surroundings σ) (c : CommandLine) : Sweep σ :=
  .standard (found.manager w).backend (found.authority.map Authority.knows)
    (found.settings c).cleanupConfig

def Surroundings.recorded (w : Surroundings σ) : Surroundings (σ × List Request) :=
  { w with network := w.network.recorded }

/-- Start-up went well, with the one request for the version, and the cleanup followed. -/
structure Swept (w : Surroundings (σ × List Request)) (c : CommandLine) (f : Files)
    (x : σ × List Request) (found : Found (σ × List Request)) (result : Except Failure Report)
    (network : σ × List Request) : Prop where
  starts : Starts w c f x found
  sent : ∃ r, Probe (found.manager w) r ∧ found.network.2 = x.2 ++ [r]
  result : result = ((found.sweep w c).sweepAll (.start found.network)).1.mapError .cleanup
  network : network = ((found.sweep w c).sweepAll (.start found.network)).2.backend

/-- After start-up only the cleanup can fail. -/
theorem Swept.fails {w : Surroundings (σ × List Request)} {c : CommandLine} {f : Files}
    {x network : σ × List Request} {found : Found (σ × List Request)}
    {result : Except Failure Report} (h : Swept w c f x found result network) {failure : Failure}
    (hresult : result = .error failure) : ∃ cause, failure = .cleanup cause := by
  have hcleanup := h.result.symm.trans hresult
  generalize ((found.sweep w c).sweepAll (.start found.network)).1 = ended at hcleanup
  rcases ended with cause | report
  · exact ⟨cause, (Except.error.inj hcleanup).symm⟩
  · cases hcleanup

/-- Once the log is open, start-up stops or goes well. -/
theorem work_cases (w : Surroundings σ) {c : CommandLine}
    (hc : ¬(c.connection.isSome ∧ c.snapshot.isSome)) {f f' : Files} {file : Settings}
    (hread : c.fileSettings f = .ok file)
    (hopened : (c.override file).log.openIn f = (.ok (), f')) (x : σ) (before : List Request) :
    let done := work w.recorded (c.override file) f' (x, before)
    Stopped w.recorded c f before done.1 done.2.2.2 ∨
      ∃ found, Swept w.recorded c f (x, before) found done.1 done.2.2 := by
  intro done
  cases hhost : (c.override file).connection with
  | error e =>
    have hdone : done = (.error (.settings e), [], (x, before)) := by
      simp only [done, work, hhost]
    rw [hdone]
    exact .inl ⟨⟨.settings e, rfl, fun _ h => by cases h⟩, .inl rfl⟩
  | ok connection =>
    let m := Manager.connect w.recorded.network w.recorded.patience connection
    have hsends : (∃ r, Probe m r ∧ (m.version (x, before)).2.2 = before ++ [r]) ∨
        (∃ e, (m.version (x, before)).1 = .error e) ∧ (m.version (x, before)).2.2 = before :=
      version_sends (show m.network = w.network.recorded from rfl) (x, before)
    rcases hversion : m.version (x, before) with ⟨e | version, y⟩
    · have hdone : done = (.error (.unreachable m.base e), [], y) := by
        simp only [done, work, hhost, m] at hversion ⊢
        rw [hversion]
      rw [hversion] at hsends
      rw [hdone]
      refine .inl ⟨⟨.unreachable m.base e, rfl, fun _ h => by cases h⟩, ?_⟩
      rcases hsends with ⟨r, hprobe, hsent⟩ | ⟨-, hsent⟩
      · exact .inr ⟨file, connection, r, hread, hhost, hprobe, hsent⟩
      · exact .inl hsent
    · rw [hversion] at hsends
      obtain ⟨r, hprobe, hsent⟩ : ∃ r, Probe m r ∧ y.2 = before ++ [r] := by
        rcases hsends with hsent | ⟨⟨e, herror⟩, -⟩
        · exact hsent
        · cases herror
      cases hauthority : authority w.recorded f' (c.override file).database with
      | error e =>
        have hdone : done = (.error e, own [connected m version], y) := by
          simp only [done, work, hhost, m] at hversion ⊢
          rw [hversion]
          simp only [hauthority]
        rw [hdone]
        exact .inl ⟨⟨e, rfl, authority_error hauthority⟩,
          .inr ⟨file, connection, r, hread, hhost, hprobe, hsent⟩⟩
      | ok a =>
        let found : Found (σ × List Request) :=
          { file, connection, files := f', version, authority := a, network := y }
        have hloaded : Loaded w.recorded f' (Source.given c file.database) a := by
          rw [← Source.named_database hc]
          exact loaded_of_authority hauthority
        have hdone : done = ((sweep m (c.override file).cleanupConfig a y).1,
            own (connected m version :: loaded a) ++ (sweep m (c.override file).cleanupConfig a y).2.1,
            (sweep m (c.override file).cleanupConfig a y).2.2) := by
          simp only [done, work, hhost, m] at hversion ⊢
          rw [hversion]
          simp only [hauthority]
        rw [hdone]
        exact .inr ⟨found, ⟨hread, hopened, hhost, hversion, hloaded⟩, ⟨r, hprobe, hsent⟩, rfl, rfl⟩

/-- A run either stops before anything is listed, having sent at most the version query, or every
step of start-up went well and the cleanup got the ids of the one source that counts. -/
theorem run_cases (w : Surroundings σ) {c : CommandLine}
    (hc : ¬(c.connection.isSome ∧ c.snapshot.isSome)) (f : Files) (x : σ)
    (before : List Request) :
    let outcome := run w.recorded c f (x, before)
    Stopped w.recorded c f before outcome.result outcome.network.2 ∨
      ∃ found, Swept w.recorded c f (x, before) found outcome.result outcome.network := by
  intro outcome
  cases hread : c.fileSettings f with
  | error e =>
    have hrun : outcome =
        { result := .error (.settings e), files := f, network := (x, before) } := by
      simp only [outcome, run, CommandLine.settings_eq, hread, Except.map]
    rw [hrun]
    exact .inl ⟨⟨.settings e, rfl, fun _ h => by cases h⟩, .inl rfl⟩
  | ok file =>
    rcases hopened : (c.override file).log.openIn f with ⟨cause | ⟨⟩, f'⟩
    · obtain ⟨path, hrun⟩ : ∃ path, outcome =
          { result := .error (.logFile path cause), files := f', network := (x, before) } := by
        simp only [outcome, run, CommandLine.settings_eq, hread, Except.map, hopened]
        exact ⟨_, rfl⟩
      rw [hrun]
      exact .inl ⟨⟨.logFile path cause, rfl, fun _ h => by cases h⟩, .inl rfl⟩
    · have hresult : outcome.result = (work w.recorded (c.override file) f' (x, before)).1 := by
        simp only [outcome, run, CommandLine.settings_eq, hread, Except.map, hopened]
      have hnetwork : outcome.network = (work w.recorded (c.override file) f' (x, before)).2.2 := by
        simp only [outcome, run, CommandLine.settings_eq, hread, Except.map, hopened]
      rw [hresult, hnetwork]
      exact work_cases w hc hread hopened x before

theorem given_of_file {c : CommandLine} {d : Settings.Database} {url path : String}
    (hoptions : c.connection = none ∧ c.snapshot = none) (hconnection : d.connection = some url)
    (hsnapshot : d.snapshot = some path) :
    Source.given c d = [.database url, .snapshot path] := by
  rw [Source.given, hoptions.1, hoptions.2, hconnection, hsnapshot]
  rfl

/-- However a run is told what to do, it stops with an error that at most the version query
precedes, unless every step of start-up went well; then the cleanup goes by the ids of the one
source that counts, and never by none if a source is named.  A settings file that names two sources
stops it, where no option names one. -/
theorem run_fails_closed {words : List String} {password : Option String} {c : CommandLine}
    (h : CommandLine.parse words password = .run c) (w : Surroundings σ) (f : Files) (x : σ)
    (before : List Request) :
    let outcome := run w.recorded c f (x, before)
    (Stopped w.recorded c f before outcome.result outcome.network.2 ∨
      ∃ found, Swept w.recorded c f (x, before) found outcome.result outcome.network ∧
        (Source.given c found.file.database ≠ [] → found.authority.isSome = true)) ∧
    ∀ file url path, c.fileSettings f = .ok file → c.connection = none ∧ c.snapshot = none →
      file.database.connection = some url → file.database.snapshot = some path →
        Stopped w.recorded c f before outcome.result outcome.network.2 := by
  intro outcome
  rcases run_cases w (CommandLine.parse_one_source h) f x before with hstopped | ⟨found, hswept⟩
  · exact ⟨.inl hstopped, fun _ _ _ _ _ _ _ => hstopped⟩
  · refine ⟨.inr ⟨found, hswept, hswept.starts.loaded.isSome⟩, ?_⟩
    intro file url path hread hoptions hconnection hsnapshot
    have hfile : found.file = file := Except.ok.inj (hswept.starts.read.symm.trans hread)
    have hloaded := hswept.starts.loaded
    rw [hfile, given_of_file hoptions hconnection hsnapshot] at hloaded
    cases hloaded

def telling : Script :=
  { rules := []
    default := .respond
      { status := 200
        body := some (Text.utf8Bytes (Json.object [("node_version", .string "4")]).render) } }

/-- The snapshot that an option names is not there. -/
theorem missing_snapshot_stops :
    let c : CommandLine :=
      { CommandLine.empty with host := some "http://nsx", snapshot := some "ids.json" }
    let w : Surroundings Script :=
      { network := Script.network, patience := .upTo 1, database := fun _ => none }
    let outcome := run w.recorded c Files.empty (telling, [])
    CommandLine.parse ["--policy-ip=http://nsx", "--authority-snapshot=ids.json"] none = .run c ∧
      outcome.result = .error (.snapshot (.unreadable "ids.json" .notFound)) ∧
      outcome.network.2.length = 1 ∧
      Stopped w.recorded c Files.empty [] outcome.result outcome.network.2 := by
  intro c w outcome
  have hparse : CommandLine.parse ["--policy-ip=http://nsx", "--authority-snapshot=ids.json"]
      none = .run c := by decide +kernel
  have hresult : outcome.result = .error (.snapshot (.unreadable "ids.json" .notFound)) := by
    decide +kernel
  have hsent : outcome.network.2.length = 1 := by decide +kernel
  refine ⟨hparse, hresult, hsent, ?_⟩
  have hrun : outcome = run w.recorded c Files.empty (telling, []) := rfl
  obtain ⟨hends, -⟩ := run_fails_closed hparse w Files.empty telling []
  rw [hrun] at hresult ⊢
  rcases hends with hstopped | ⟨found, hswept, -⟩
  · exact hstopped
  · obtain ⟨cause, hcause⟩ := hswept.fails hresult
    cases hcause

end Program

end NetSweep
