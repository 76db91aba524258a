import NetSweep.Assoc
import NetSweep.Text.Split

/-!
# Files

The files that a run reads and writes, as a tree of folders.  A path is walked name by name from
the working folder, or from the root if it begins with a slash; every name on the way has to be a
folder's.
-/

namespace NetSweep

inductive FileError where
  | notFound
  | taken
  | notFolder
  | isFolder
  | nameTooLong
  | nulInName
deriving DecidableEq, Repr

def FileError.message : FileError → String
  | notFound => "No such file or directory (os error 2)"
  | taken => "File exists (os error 17)"
  | notFolder => "Not a directory (os error 20)"
  | isFolder => "Is a directory (os error 21)"
  | nameTooLong => "File name too long (os error 36)"
  | nulInName => "file name contained an unexpected NUL byte"

inductive Files.Entry where
  | folder
  | file (text : String)
deriving DecidableEq, Repr

/-- A tree of folders and files: each place is the list of names that leads to it, a slash being
the name of the root.  The working folder and the root need no entry. -/
structure Files where
  entries : List (List String × Files.Entry)
deriving DecidableEq, Repr

namespace Files

def empty : Files := { entries := [] }

def at? (f : Files) (place : List String) : Option Entry :=
  if place = [] ∨ place = ["/"] then some .folder else Assoc.find? place f.entries

def put (f : Files) (place : List String) (e : Entry) : Files :=
  { entries := (place, e) :: Assoc.erase place f.entries }

/-! ## Paths -/

def maxPath : Nat := 4095

def maxName : Nat := 255

/-- Why a path leads nowhere, whatever files there are. -/
def pathError? (path : String) : Option FileError :=
  if path.toList.contains '\x00' then some .nulInName
  else if path = "" then some .notFound
  else if maxPath < path.utf8ByteSize then some .nameTooLong
  else none

def names (path : String) : List String :=
  let parts := (Text.splitAt (· = '/') path.toList).map String.ofList
  (if path.toList.head? = some '/' then ["/"] else []) ++ parts.filter (· ≠ "")

def endsInSlash (path : String) : Bool := path.toList.getLast? = some '/'

/-- The names of the folder that a path's last name is in.  A single dot is the name of nothing,
so the last name is never one. -/
def folderNames (path : String) : List String := ((names path).filter (· ≠ ".")).dropLast

/-- Whether a name stands for a folder that is there in any case: the root, the folder itself, or
the one above it. -/
def isRelative (name : String) : Bool := name = "/" || name = "." || name = ".."

/-- The place that a name leads to from a folder; nothing is above the root. -/
def enter (place : List String) (name : String) : List String :=
  if name = "." then place
  else if name = ".." then (if place = ["/"] then place else place.dropLast)
  else place ++ [name]

/-- Walks names from a place; only folders can be left. -/
def walk (f : Files) : (place : List String) → List String → Except FileError (List String)
  | place, [] => .ok place
  | place, name :: rest =>
    match f.at? place with
    | none => .error .notFound
    | some (.file _) => .error .notFolder
    | some .folder =>
      if maxName < name.utf8ByteSize then .error .nameTooLong
      else walk f (enter place name) rest

/-! ## Reading and writing -/

def read (f : Files) (path : String) : Except FileError String :=
  match pathError? path with
  | some e => .error e
  | none =>
    match f.walk [] (names path ++ if endsInSlash path then ["."] else []) with
    | .error e => .error e
    | .ok place =>
      match f.at? place with
      | none => .error .notFound
      | some .folder => .error .isFolder
      | some (.file text) => .ok text

/-- Walks names from a place and makes the folders that are missing on the way, as far as that is
possible. -/
def makeFolders (f : Files) :
    (place : List String) → List String → Except FileError Unit × Files
  | _, [] => (.ok (), f)
  | place, name :: rest =>
    match f.at? (enter place name) with
    | some .folder => makeFolders f (enter place name) rest
    | some (.file _) => (.error (if rest.isEmpty then .taken else .notFolder), f)
    | none =>
      if maxName < name.utf8ByteSize then (.error .nameTooLong, f)
      else makeFolders (f.put (enter place name) .folder) (enter place name) rest

inductive IfExists where
  | fail | truncate | append
deriving DecidableEq, Repr

/-- What becomes of the place where a file is to be written, given what is there.  It is left
alone if nothing is said. -/
def IfExists.settle (mode : IfExists) (found : Option Entry) : Except FileError (Option Entry) :=
  match found, mode with
  | none, _ => .ok (some (.file ""))
  | some _, .fail => .error .taken
  | some .folder, _ => .error .isFolder
  | some (.file _), .truncate => .ok (some (.file ""))
  | some (.file _), .append => .ok none

def create (f : Files) (path : String) (mode : IfExists) : Except FileError Files :=
  match pathError? path, (names path).getLast? with
  | some e, _ => .error e
  | none, none => .error .notFound
  | none, some last =>
    match f.walk [] ((names path).dropLast ++ ["."]) with
    | .error e => .error e
    | .ok folder =>
      if endsInSlash path && !isRelative last then .error .isFolder
      else if maxName < last.utf8ByteSize then .error .nameTooLong
      else
        let found := if isRelative last then some .folder else f.at? (enter folder last)
        match mode.settle found with
        | .error e => .error e
        | .ok none => .ok f
        | .ok (some e) => .ok (f.put (enter folder last) e)

/-- Makes a file ready to be written, and the folders that it is in.  Folders that were made
before something failed are there afterwards. -/
def openFile (f : Files) (path : String) (mode : IfExists) : Except FileError Unit × Files :=
  let folders := folderNames path
  match pathError? ("/".intercalate folders) with
  | some .nulInName => (.error .nulInName, f)
  | some .nameTooLong => (.error .nameTooLong, f)
  | _ =>
    match f.makeFolders [] folders with
    | (.error e, f) => (.error e, f)
    | (.ok (), f) =>
      match f.create path mode with
      | .error e => (.error e, f)
      | .ok f => (.ok (), f)

def append (f : Files) (path text : String) : Files :=
  match f.walk [] (names path) with
  | .error _ => f
  | .ok place =>
    match f.at? place with
    | some (.file before) => f.put place (.file (before ++ text))
    | _ => f

/-- The tree with a file and the folders around it; nothing changes if that is impossible. -/
def withFile (f : Files) (path text : String) : Files :=
  match f.openFile path .truncate with
  | (.ok (), f) => f.append path text
  | (.error _, _) => f

end Files

end NetSweep
