import RuleFixtures.CommandLine.Run
import RuleFixtures.Demo.Server
import Std.Time.DateTime.Timestamp

/-!
The program on the command line.

The files that the command line and the settings name are read before the run, and those that the
run changes are written after it. The demonstration server answers the requests, in the place of
a backend on the network.
-/

namespace RuleFixtures.Terminal

/-- The variables of the environment that a run reads: the settings and the width of the console. -/
def readEnvironment : IO (List (String × String)) :=
  ("COLUMNS" :: Settings.names.map fun name => (Settings.variableStart ++ name).toUpper).filterMapM
    fun name => do return (← IO.getEnv name).map (name, ·)

/-- Is there a directory at a path? -/
def isDirectory (path : String) : IO Bool := do
  try (← IO.FS.realPath path).isDir catch _ => return false

/-- Takes up what is at a path. -/
def lookAt (files : Files) (path : FilePath) : IO Files := do
  if ← isDirectory path.toString then
    return { files with directories := files.directories ++ [path] }
  try
    let content ← IO.FS.readBinFile path.toString
    return { files with contents := files.contents.insert path content.toList }
  catch _ => return files

/-- Takes up what is on the way to a path, and at it. -/
def lookAlong (files : Files) (path : String) : IO Files :=
  (Files.steps (FilePath.ofString path)).foldlM lookAt files

/-- The files that a command line names. -/
def namedFiles (arguments : List String) (environment : List (String × String)) (files : Files) :
    List String :=
  match CommandLine.Invocation.read arguments, Settings.load environment files with
  | .ok invocation, .ok settings =>
    let config := invocation.config settings
    let output := match invocation.command with
      | .inspect => none
      | .generate => invocation.output?
    config.tokenFile.toList ++ config.caFile.toList ++ output.toList
  | _, _ => []

/-- Writes the files that differ from those before the run. -/
def save (before after : Files) : IO Unit :=
  for (path, content) in after.contents.entries do
    if before.contents.get? path ≠ some content then
      IO.FS.createDirAll path.parent.toString
      IO.FS.writeBinFile path.toString ⟨content.toArray⟩

/-- The present instant. -/
def now : IO Instant := do
  let time ← Std.Time.Timestamp.now
  return ⟨time.toNanosecondsSinceUnixEpoch.val / 1000⟩

/-- Runs a command line and gives the exit code. -/
def run (arguments : List String) : IO Nat := do
  let environment ← readEnvironment
  let settingsFile ← lookAlong .empty ".env"
  let files ← (namedFiles arguments environment settingsFile).foldlM lookAlong settingsFile
  let present ← now
  let program : CommandLine.Run Unit := { transport := Demo.transport, environment, now := present }
  let (code, session) := (program.start arguments).run { files, backend := () }
  save files session.files
  (← IO.getStdout).putStr session.printed
  (← IO.getStderr).putStr (session.errorText present.stamp)
  return code

end RuleFixtures.Terminal

/-- Runs the program. -/
def main (arguments : List String) : IO UInt32 := do
  return (← RuleFixtures.Terminal.run arguments).toUInt32
