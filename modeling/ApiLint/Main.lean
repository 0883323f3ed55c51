import ApiLint.Command

/-!
# The program

Reads the words and the files, runs the command, prints what it prints, and tells the log and the
failure on the error stream.
-/

open ApiLint

/-- What stands at a path now. -/
def readEntry (path : String) : IO FileEntry := do
  try
    let place ← IO.FS.realPath path
    if ← place.isDir then return .directory
    else if ← place.pathExists then return .file (← IO.FS.readBinFile place)
    else return .missing
  catch _ => return .missing

/-- The directory for the settings of all programs. -/
def settingsHome : IO (Option String) := do
  match ← IO.getEnv "XDG_CONFIG_HOME" with
  | some home => return some home
  | none => return (← IO.getEnv "HOME").map (· ++ "/.config")

/-- The paths that a run for the given words may read. -/
def pathsOf (home : Option String) (words : List String) : List String :=
  (home.map Command.Plan.defaultPath).toList ++
    match Arguments.parse words with
    | .ok arguments => arguments.config.toList ++ arguments.source.toList
    | .error _ => []

/-- The file system as far as a run for the given words may read it. -/
def readFiles (home : Option String) (words : List String) : IO FileSystem := do
  let found ← (pathsOf home words).mapM fun path => do return (path, ← readEntry path)
  return ⟨fun path => (found.lookup path).getD .missing⟩

def main (words : List String) : IO UInt32 := do
  let home ← settingsHome
  let files ← readFiles home words
  let outcome := Command.run files home words
  for line in outcome.log do IO.eprintln ("[" ++ line)
  IO.print outcome.printed
  match outcome.error with
  | some message => IO.eprintln ("Error: " ++ message)
  | none => pure ()
  return UInt32.ofNat outcome.code
