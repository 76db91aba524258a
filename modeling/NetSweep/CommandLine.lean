import NetSweep.Settings

/-!
# The command line

Options are long names, each given at most once; those that take a value take it after an equals
sign or from the next argument, which then must not begin like an option.  Words are read in
order, and the first that asks for help or for the version, or that is wrong, decides.
-/

namespace NetSweep

inductive CommandLine.Flag where
  | policyIp | username | password | dbConnection | authoritySnapshot | allowPassthrough | domain
  | dryRun | insecure | config | logLevel
deriving DecidableEq, Repr

structure CommandLine where
  /-- the address of the manager -/
  host : Option String
  username : Option String
  password : Option String
  /-- the orchestrator's database -/
  connection : Option String
  /-- a snapshot of the orchestrator's ids -/
  snapshot : Option String
  allowPassthrough : Option Bool
  domain : Option String
  dryRun : Bool
  insecure : Bool
  /-- a settings file; the options override it -/
  config : Option String
  logLevel : Option Log.Level
deriving DecidableEq, Repr

namespace CommandLine

def empty : CommandLine :=
  { host := none, username := none, password := none, connection := none, snapshot := none
    allowPassthrough := none, domain := none, dryRun := false, insecure := false, config := none
    logLevel := none }

inductive Request where
  | run (options : CommandLine)
  | help
  | version
  /-- it cannot be understood -/
  | wrong (about : String)
deriving DecidableEq, Repr

def flags : List (String × Flag) :=
  [("policy-ip", .policyIp), ("username", .username), ("password", .password),
   ("db-connection", .dbConnection), ("authority-snapshot", .authoritySnapshot),
   ("allow-passthrough", .allowPassthrough), ("domain", .domain), ("dry-run", .dryRun),
   ("insecure", .insecure), ("config", .config), ("log-level", .logLevel)]

def bool? : String → Option Bool
  | "true" => some true
  | "false" => some false
  | _ => none

/-- The command line with an option that takes no value, or nothing if the option takes one. -/
def switch? (c : CommandLine) : Flag → Option CommandLine
  | .dryRun => some { c with dryRun := true }
  | .insecure => some { c with insecure := true }
  | _ => none

def assign? (c : CommandLine) (value : String) : Flag → Option CommandLine
  | .policyIp => some { c with host := some value }
  | .username => some { c with username := some value }
  | .password => some { c with password := some value }
  | .dbConnection => some { c with connection := some value }
  | .authoritySnapshot => some { c with snapshot := some value }
  | .allowPassthrough => (bool? value).map fun b => { c with allowPassthrough := some b }
  | .domain => some { c with domain := some value }
  | .config => some { c with config := some value }
  | .logLevel => (Log.Level.ofName? value).map fun l => { c with logLevel := some l }
  | .dryRun | .insecure => none

def cutValue (cs : List Char) : String × Option String :=
  match cs.dropWhile (· ≠ '=') with
  | _ :: value => (String.ofList (cs.takeWhile (· ≠ '=')), some (String.ofList value))
  | [] => (String.ofList cs, none)

inductive Word where
  /-- a long option with the value attached to it -/
  | long (name : String) (value : Option String)
  /-- short options -/
  | short (letters : List Char)
  /-- the mark that no options follow -/
  | separator
  | plain
deriving DecidableEq, Repr

def Word.ofString (s : String) : Word :=
  match s.toList with
  | ['-', '-'] => .separator
  | '-' :: '-' :: rest => .long (cutValue rest).1 (cutValue rest).2
  | '-' :: c :: rest => .short (c :: rest)
  | _ => .plain

/-- What a command line asks for, once its words are all read: an authority has one source. -/
def finish (c : CommandLine) : Request :=
  if c.connection.isSome ∧ c.snapshot.isSome then
    .wrong "--db-connection cannot be used with --authority-snapshot"
  else .run c

def readShort : List Char → Request
  | 'h' :: _ => .help
  | 'V' :: _ => .version
  | letters => .wrong ("-" ++ String.ofList letters)

def read (c : CommandLine) (seen : List Flag) : List String → Request
  | [] => c.finish
  | word :: rest =>
    match Word.ofString word with
    | .separator => if rest.isEmpty then c.finish else .wrong word
    | .plain => .wrong word
    | .short letters => readShort letters
    | .long name value =>
      match Assoc.find? name flags with
      | none =>
        if value.isNone ∧ name = "help" then .help
        else if value.isNone ∧ name = "version" then .version
        else .wrong word
      | some flag =>
        if flag ∈ seen then .wrong word
        else
          match c.switch? flag, value with
          | some c, none => read c (flag :: seen) rest
          | some _, some _ => .wrong word
          | none, some value =>
            match c.assign? value flag with
            | some c => read c (flag :: seen) rest
            | none => .wrong word
          | none, none =>
            match rest with
            | [] => .wrong word
            | value :: rest =>
              if Word.ofString value = .plain then
                match c.assign? value flag with
                | some c => read c (flag :: seen) rest
                | none => .wrong word
              else .wrong word

/-- What words ask for.  A password that no option gives is taken from the environment. -/
def parse (words : List String) (password : Option String) : Request :=
  match read empty [] words with
  | .run c => .run { c with password := c.password.or password }
  | other => other

/-! ## Settings -/

/-- The sources of ids: one that the command line names replaces both of the settings. -/
def database (c : CommandLine) (d : Settings.Database) : Settings.Database :=
  match c.snapshot, c.connection with
  | some snapshot, _ => { connection := none, snapshot := some snapshot }
  | none, some connection => { connection := some connection, snapshot := none }
  | none, none => d

def override (c : CommandLine) (s : Settings) : Settings where
  manager :=
    { host := c.host.or s.manager.host
      username := c.username.getD s.manager.username
      password := c.password.getD s.manager.password
      allowPassthrough := c.allowPassthrough.getD s.manager.allowPassthrough
      insecure := c.insecure || s.manager.insecure
      timeout := s.manager.timeout }
  database := c.database s.database
  cleanup :=
    { s.cleanup with
      domain := c.domain.getD s.cleanup.domain
      dryRun := c.dryRun || s.cleanup.dryRun }
  log := { s.log with level := c.logLevel.getD s.log.level }

/-- The settings of a run: those of the settings file, if there is one, under the options. -/
def settings (c : CommandLine) (f : Files) : Except Settings.Error Settings :=
  match c.config with
  | none => .ok (c.override .default)
  | some path => (Settings.ofFile f path).map c.override

end CommandLine

end NetSweep
