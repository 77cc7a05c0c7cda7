import PassPipeline.Invocation
import PassPipeline.Libraries.Standard
import PassPipeline.Metrics.Data

/-!
# The program

The program takes a snapshot of what it may need, carries out its command line, and
prints what comes of it: the messages, the output of the passes and the metrics on the
standard output, and a failure on the standard error stream.  The standard input is read
only if the passes want it.

The program has no clock: every length of time that it tells is zero.
-/

namespace PassPipeline

/-- What a path leads to. -/
def readEntry (path : String) : IO Entry := do
  try
    return .file (← IO.FS.readBinFile path)
  catch
    | .inappropriateType _ code _ => return if code = 21 then .directory else .blocked
    | .permissionDenied .. => return .denied
    | .invalidArgument .. => return .tooLong
    | _ => return .missing

/-- What the paths lead to, as far as they are listed.  A path that is no text is not
looked up. -/
def readEntries (paths : List OsText) : IO (OsText → Entry) := do
  let entries ← (paths.filterMap String.fromUTF8?).mapM fun path =>
    return (path.toUTF8, ← readEntry path)
  return fun path => (entries.lookup path).getD .missing

/-- The environment of the program. -/
def readEnvironment : IO Environment := do
  match ← readEntry "/proc/self/environ" with
  | .file bytes => return .ofBytes bytes
  | _ => return {}

/-- The home directory of the account of the program's user. -/
def readAccountHome : IO (Option OsText) := do
  let description := (← readEntry "/proc/self/status").readText.toOption
  let accounts := (← readEntry "/etc/passwd").readText.toOption
  return do
    return (← Surroundings.homeOf? (← accounts)
      (← Surroundings.accountNumber? (← description))).toUTF8

/-- The paths that a command line may lead to. -/
def wantedPaths (surroundings : Surroundings) (words : List String) : List OsText :=
  (surroundings.directory?.map Configuration.defaultPath).toList ++ words.map (·.toUTF8) ++
    words.filterMap fun word => (word.dropPrefix? "--config=").map (·.copy.toUTF8)

/-- A line of the log. -/
def logLine (message : Message) : String :=
  message.level.name ++ " " ++ message.wording fun duration => toString duration ++ "ns"

/-- Prints what an invocation leaves behind. -/
def printOutcome (outcome : Invocation.Outcome) : IO Unit := do
  let output ← IO.getStdout
  for message in outcome.log do
    output.putStrLn (logLine message)
  output.write outcome.output
  if let some metrics := outcome.metrics then
    output.putStrLn (metrics.toJson.pretty 0)
  output.flush
  (← IO.getStderr).putStr outcome.errors

/-- Runs the program with the words of its command line. -/
def runProgram (words : List String) : IO UInt32 := do
  let place : Surroundings := {
    environment := ← readEnvironment
    accountHome := ← readAccountHome
    working := (FileTree.names (toString (← IO.currentDir))).map (·.toUTF8) }
  let assignments ← readEntries place.assignmentPaths
  let found := { place with entry := assignments }
  let files ← readEntries (wantedPaths { found with environment := found.fullEnvironment } words)
  let surroundings := { found with
    entry := fun path => if (assignments path).isPresent then assignments path else files path }
  let perform (input : ByteArray) :=
    Invocation.perform .standard { surroundings with input } {} (words.map (·.toUTF8))
  -- whether the input is read cannot depend on it, so one byte in its place tells
  let probe := perform ⟨#[0]⟩
  let input ← if probe.leavesInput then pure ByteArray.empty else (← IO.getStdin).readBinToEnd
  let outcome := perform input
  printOutcome outcome
  return outcome.status.toUInt32

end PassPipeline

/-- Runs the program. -/
def main (words : List String) : IO UInt32 := PassPipeline.runProgram words
