/-!
# Log records

A record is a level, a message and named values as text.  A logger with a threshold keeps the
records at its level and above.
-/

namespace NetSweep

inductive Log.Level where
  | trace | debug | info | warning | error | critical
deriving DecidableEq, Repr

structure Log.Record where
  level : Log.Level
  message : String
  fields : List (String × String)
deriving DecidableEq, Repr

namespace Log

def Level.severity (l : Level) : Nat := l.ctorIdx

def Level.passes (threshold level : Level) : Bool := threshold.severity ≤ level.severity

def debug (message : String) (fields : List (String × String)) : Record :=
  { level := .debug, message, fields }

def info (message : String) (fields : List (String × String)) : Record :=
  { level := .info, message, fields }

def warning (message : String) (fields : List (String × String)) : Record :=
  { level := .warning, message, fields }

def warnings (records : List Record) : List Record :=
  records.filter (fun r => Level.warning.passes r.level)

end Log

end NetSweep
