import NetSweep.Files
import NetSweep.Json.Printer
import NetSweep.Log

/-!
# Where a log goes

A log goes to the terminal or to a file, from a level on.  In a file each record is one line, a
JSON object.  Records below `debug` are never written.
-/

namespace NetSweep

open Json (string?)

namespace Log

def Level.all : List Level := [.trace, .debug, .info, .warning, .error, .critical]

def Level.name : Level → String
  | .trace => "trace"
  | .debug => "debug"
  | .info => "info"
  | .warning => "warn"
  | .error => "error"
  | .critical => "critical"

def Level.ofName? (s : String) : Option Level := Level.all.find? (·.name == s)

def Level.label : Level → String
  | .trace => "TRCE"
  | .debug => "DEBG"
  | .info => "INFO"
  | .warning => "WARN"
  | .error => "ERRO"
  | .critical => "CRIT"

inductive Destination where
  | terminal
  | file (path : String) (ifExists : Files.IfExists)
deriving DecidableEq, Repr

/-- A log's destination and the least level that is written. -/
structure Sink where
  destination : Destination
  level : Level
deriving DecidableEq, Repr

namespace Sink

def default : Sink := { destination := .terminal, level := .info }

/-! ## Reading -/

/-- The name of a constant in settings: a string, or an object whose one member binds the name to
null or to an empty object. -/
def constantName? : Json → Option String
  | .string s => some s
  | .object [(name, .null)] | .object [(name, .object [])] => some name
  | _ => none

def levelOf? (v : Json) : Option Level := (constantName? v).bind Level.ofName?

def ifExistsOf? (v : Json) : Option Files.IfExists :=
  match constantName? v with
  | some "fail" => some .fail
  | some "truncate" => some .truncate
  | some "append" => some .append
  | _ => none

/-- A sink from the name of its mode and the values that the mode asks for. -/
def ofFields? (mode : String) (fields : List String → Option (List Json)) : Option Sink :=
  match mode with
  | "stderr-terminal" =>
    match fields ["level"] with
    | some [level] => (levelOf? level).map fun level => { destination := .terminal, level }
    | _ => none
  | "file" =>
    match fields ["level", "path", "if_exists"] with
    | some [level, path, ifExists] =>
      (levelOf? level).bind fun level => path.string?.bind fun path =>
        (ifExistsOf? ifExists).map fun ifExists =>
          { destination := .file path ifExists, level }
    | _ => none
  | _ => none

/-- Reads a sink: an object with the mode among its members, or an array that the mode begins. -/
def ofJson? : Json → Option Sink
  | .object members =>
    ((Assoc.find? "mode" members).bind string?).bind fun mode =>
      ofFields? mode fun names => names.mapM fun n => Assoc.find? n members
  | .array (mode :: rest) =>
    (string? mode).bind fun mode =>
      ofFields? mode fun names => if rest.length = names.length then some rest else none
  | _ => none

/-! ## Writing -/

def keeps (s : Sink) (level : Level) : Bool :=
  s.level.passes level && Level.debug.passes level

/-- A record as a line of a log file.  The name tells the program and the component the part of
it that speaks. -/
def line (name : String) (component : Option String) (r : Record) : String :=
  (Json.object
    ([("msg", .string r.message), ("level", .string r.level.label), ("name", .string name)]
      ++ (component.toList.map fun c => ("component", .string c))
      ++ r.fields.map fun f => (f.1, .string f.2))).render ++ "\n"

def openIn (s : Sink) (f : Files) : Except FileError Unit × Files :=
  match s.destination with
  | .terminal => (.ok (), f)
  | .file path ifExists => f.openFile path ifExists

def write (s : Sink) (name : String) (records : List (Option String × Record)) (f : Files) :
    Files :=
  match s.destination with
  | .terminal => f
  | .file path _ =>
    f.append path (String.join
      ((records.filter (fun r => s.keeps r.2.level)).map fun r => line name r.1 r.2))

end Sink

end Log

end NetSweep
