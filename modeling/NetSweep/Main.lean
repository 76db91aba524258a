import NetSweep.Program

/-!
# The executable

Fetches the files that a run may read, runs the program, and writes its log back.  The executable
has no transport of its own: every request it makes goes unanswered.
-/

namespace NetSweep.Executable

def fetch (f : Files) (path : String) : IO Files := do
  try
    let text ← IO.FS.readFile path
    return f.withFile path text
  catch _ => return f

def store (f : Files) (path : String) : IO Unit := do
  match f.read path with
  | .error _ => pure ()
  | .ok text =>
    match Files.folderNames path with
    | [] => pure ()
    | folder => IO.FS.createDirAll ("/".intercalate folder)
    IO.FS.writeFile path text

def logPath (s : Settings) : Option String :=
  match s.log.destination with
  | .terminal => none
  | .file path _ => some path

def runProgram (c : CommandLine) : IO UInt32 := do
  let f ← c.config.toList.foldlM fetch Files.empty
  let settings := (c.settings f).toOption
  let paths := (settings.bind fun s => s.database.snapshot).toList ++ (settings.bind logPath).toList
  let f ← paths.foldlM fetch f
  let outcome := Program.run
    { network := .down, patience := .upTo 1, database := fun _ => none } c f ()
  for path in (settings.bind logPath).toList do
    if outcome.files ≠ f then store outcome.files path
  match outcome.result with
  | .ok report =>
    IO.println report.text
    return 0
  | .error e =>
    IO.eprintln (Program.name ++ ": " ++ e.message)
    return 1

def helpText : String :=
  "Remove the NSX objects created by an OpenStack deployment\n\nUsage: " ++ Program.name
    ++ " [OPTIONS]\n\nOptions: "
    ++ ", ".intercalate (CommandLine.flags.map fun f => "--" ++ f.1)

end NetSweep.Executable

open NetSweep NetSweep.Executable in
def main (words : List String) : IO UInt32 := do
  let password ← IO.getEnv "NSX_PASSWORD"
  match CommandLine.parse words password with
  | .help => IO.println helpText; return 0
  | .version => IO.println Program.versionText; return 0
  | .wrong about =>
    IO.eprintln ("error: unexpected argument '" ++ about ++ "'")
    return 2
  | .run c => runProgram c
