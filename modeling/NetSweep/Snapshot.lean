import NetSweep.Authority
import NetSweep.Files
import NetSweep.Text.Quoted

/-!
# Snapshots of the orchestrator's ids

The ids can be exported to a file ahead of time: a JSON object that binds the name of a model to
the list of its ids.  A model that the file does not name has no ids.
-/

namespace NetSweep

inductive SnapshotError where
  | unreadable (path : String) (cause : FileError)
  | malformed (path : String)
deriving DecidableEq, Repr

namespace SnapshotError

def message : SnapshotError → String
  | unreadable path _ => "read " ++ Text.quoted path
  | malformed path => "parse " ++ Text.quoted path

def fullMessage : SnapshotError → String
  | unreadable path cause => (unreadable path cause).message ++ ": " ++ cause.message
  | malformed path => (malformed path).message ++ ": not a snapshot"

end SnapshotError

namespace Snapshot

def ofFile (f : Files) (path : String) : Except SnapshotError Authority :=
  match f.read path with
  | .error cause => .error (.unreadable path cause)
  | .ok text =>
    match Authority.parse? text with
    | none => .error (.malformed path)
    | some a => .ok a

/-- A snapshot as a source of ids, which has an answer for every model. -/
def source (a : Authority) : Authority.Model → Except SnapshotError (List String) :=
  fun m => .ok (a.idsOf m)

def load (f : Files) (path : String) : Except SnapshotError Authority :=
  match ofFile f path with
  | .error e => .error e
  | .ok a => Authority.load (source a)

end Snapshot

end NetSweep
