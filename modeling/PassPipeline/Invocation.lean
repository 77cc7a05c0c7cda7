import PassPipeline.Configuration
import PassPipeline.Libraries
import PassPipeline.Manager.Run
import PassPipeline.TextPipeline

/-!
# One invocation of the program

The program puts the text pipeline under one manager and runs it once.  The passes that
the command line and the configuration select are one selection; the configuration may
name a pass for the case that it is empty.  An input file takes the place of the standard
input.

The program ends well exactly if the run succeeds.
-/

namespace PassPipeline

/-- The reason that the program gives up. -/
inductive Failure where
  /-- A pass cannot be registered. -/
  | registration (error : PassError)
  /-- The configuration cannot be had. -/
  | configuration (failure : Configuration.Failure)
  /-- No pass has the argument that is to be selected. -/
  | unknownPass (arg : String) (error : PassError)
  /-- No pass has the argument of the default pass. -/
  | unknownDefault (arg : String)
  /-- The input file cannot be read. -/
  | unreadableInput (path : OsText) (reason : ReadFailure)
  /-- The manager refuses the run, or a pass dies. -/
  | halted (halt : Halt)
  deriving DecidableEq

namespace Failure

/-- The wording of a failure. -/
def message : Failure → String
  | .registration _ => "failed to register passes"
  | .configuration _ => "failed to load configuration"
  | .unknownPass arg _ => "unknown pass '" ++ arg ++ "'"
  | .unknownDefault arg => "unknown default pass '" ++ arg ++ "'"
  | .unreadableInput path _ => "failed to read input: " ++ Text.Utf8.lossy path
  | .halted (.refused error) => error.message
  | .halted .panicked => "a pass died"

/-- The wording of what lies behind a failure, from the outside to the inside. -/
def causes : Failure → List String
  | .registration error => [error.message]
  | .configuration failure => failure.message :: failure.causes
  | .unknownPass _ error => [error.message]
  | .unknownDefault _ => []
  | .unreadableInput _ reason => [reason.message]
  | .halted (.refused (.io reason)) => [reason]
  | .halted _ => []

/-- The exit status of a program that gives up. -/
def status : Failure → UInt8
  | .halted .panicked => 101
  | _ => 1

/-- What is written of a failure, by a library that describes it. -/
def report (describe : String → List String → String) (failure : Failure) : String :=
  "Error: " ++ describe failure.message failure.causes ++ "\n"

end Failure

/-- An invocation under way. -/
structure Invocation where
  /-- What the manager finds around it. -/
  world : World
  /-- The bytes that were printed. -/
  output : ByteArray := ByteArray.empty
  /-- The metrics that are printed after the run. -/
  metrics : Option Metrics := none

namespace Invocation

/-- A step of an invocation. -/
abbrev Step := ExceptT Failure (StateM Invocation)

/-- Changes the world. -/
def modifyWorld (change : World → World) : Step Unit :=
  modify fun invocation => { invocation with world := change invocation.world }

/-- Writes a message to the log. -/
def log (message : Message) : Step Unit := modifyWorld (·.log message)

/-- The catalogue of the program, and the identities of its passes. -/
def catalog? : Except PassError (TextPipeline.Ids × Catalog) := do
  let (_, catalog) ← ({} : Catalog).register Manager.registration
  match TextPipeline.registerAll.run catalog with
  | (.ok ids, catalog) => return (ids, catalog)
  | (.error error, _) => .error error

/-- The message that tells the settings. -/
def settingsMessage (settings : Settings) : Message where
  level := .info
  topic := .settings
  text :=
    "Manager config: schedule_limit=" ++ toString settings.scheduleLimit ++
      ", record_metrics=" ++ toString settings.recordMetrics

/-- Loads the configuration. -/
def configure (libraries : Libraries) (surroundings : Surroundings) (line : CommandLine) :
    Step Configuration := do
  match Configuration.path (libraries.directory surroundings) line.config with
  | .error failure => throw (.configuration failure)
  | .ok path =>
    let entry := surroundings.entry path
    log (Configuration.announcement path entry)
    match Configuration.load libraries.deserializer surroundings.environment path entry with
    | .error failure => throw (.configuration failure)
    | .ok configuration =>
      log (settingsMessage configuration.manager)
      return configuration

/-- Selects the pass with that argument. -/
def select (arg : String) : Step Unit := do
  match (← get).world.catalog.selectArg arg with
  | .error error => throw (.unknownPass arg error)
  | .ok (_, catalog) => modifyWorld ({ · with catalog })

/-- Makes a manager. -/
def appoint (settings : Settings) : Step Manager := do
  match Manager.create (← get).world settings with
  | .error error => throw (.halted (.refused error))
  | .ok (manager, world) =>
    modifyWorld fun _ => world
    return manager

/-- Puts a pass under management. -/
def entrust (manager : Manager) (id : PassId) : Step Manager := do
  match manager.add (← get).world id with
  | (.error error, _, _) => throw (.halted (.refused error))
  | (.ok (), manager, world) =>
    modifyWorld fun _ => world
    return manager

/-- Names the pass that runs if none is selected. -/
def nameDefault (manager : Manager) : Option String → Step Manager
  | none => return manager
  | some arg => do
    match (← get).world.catalog.findArg arg with
    | none => throw (.unknownDefault arg)
    | some id => return { manager with defaultPass := some id }

/-- The message that tells the size of the input file. -/
def inputMessage (path : OsText) (text : String) : Message where
  level := .info
  topic := .program
  text := "Loaded " ++ toString text.utf8ByteSize ++ " bytes from " ++ Text.Utf8.lossy path

/-- Puts the text of the input file in place of the standard input. -/
def seed (surroundings : Surroundings) (read : PassId) (manager : Manager) :
    Option OsText → Step Manager
  | none => return manager
  | some path => do
    match (surroundings.entry path).readText with
    | .error reason => throw (.unreadableInput path reason)
    | .ok text =>
      log (inputMessage path text)
      return { manager with defaultResults := .ofValues [(read, .text text)] }

/-- Runs the manager, and tells whether the run succeeded. -/
def run (timing : Timing) (line : CommandLine) (manager : Manager) : Step Bool := do
  let (outcome, site) := ({ manager, world := (← get).world } : Site).run timing
  modify fun invocation =>
    { invocation with world := site.world, output := site.manager.stream.contents }
  match outcome with
  | .error halt => throw (.halted halt)
  | .ok succeeded =>
    if line.metrics then
      modify fun invocation => { invocation with metrics := some site.manager.metrics }
    unless succeeded do
      log { level := .error, topic := .program, text := "pass manager run failed" }
    return succeeded

/-- Carries out a command line. -/
def carryOut (libraries : Libraries) (surroundings : Surroundings) (ids : TextPipeline.Ids)
    (timing : Timing) (line : CommandLine) : Step Bool := do
  let configuration ← configure libraries surroundings line
  (line.selected ++ configuration.select).forM select
  let manager ← appoint configuration.manager
  let manager ← ids.all.foldlM entrust manager
  let manager ← nameDefault manager configuration.defaultPass
  let manager ← seed surroundings ids.read manager line.input
  run timing line manager

/-! ## The whole invocation -/

/-- The messages that are shown: those that the environment asks for, or else those from a
level on. -/
def shows (libraries : Libraries) (environment : Environment) (line : CommandLine) :
    Message → Bool :=
  (libraries.namedFilter environment).getD
    (libraries.filter (if line.verbose then "debug" else "warn"))

/-- What an invocation leaves behind. -/
structure Outcome where
  status : UInt8 := 0
  log : List Message := []
  /-- The bytes that were printed. -/
  output : ByteArray := ByteArray.empty
  /-- The metrics that are printed after that. -/
  metrics : Option Metrics := none
  /-- What is written to the standard error stream. -/
  errors : String := ""
  /-- Is something of the standard input left? -/
  leavesInput : Bool := true

/-- The messages of the log of a world. -/
def messages (world : World) : List Message :=
  world.trace.toList.filterMap fun
    | .log message => some message
    | _ => none

/-- What an invocation leaves behind when it has ended. -/
def outcome (libraries : Libraries) (shows : Message → Bool)
    (ended : Except Failure Bool × Invocation) : Outcome where
  status :=
    match ended.1 with
    | .ok succeeded => if succeeded then 0 else 1
    | .error failure => failure.status
  log := (messages ended.2.world).filter shows
  output := ended.2.output
  metrics := ended.2.metrics
  errors :=
    match ended.1 with
    | .ok _ => ""
    | .error failure => failure.report libraries.describe
  leavesInput := !ended.2.world.input.isEmpty

/-- Carries out the command line with those words. -/
def perform (libraries : Libraries) (surroundings : Surroundings) (timing : Timing)
    (words : List OsText) : Outcome :=
  let surroundings := libraries.complete surroundings
  match catalog? with
  | .error error =>
    { status := 1, errors := (Failure.registration error).report libraries.describe }
  | .ok (ids, catalog) =>
    match CommandLine.parse libraries.read catalog words with
    | .error exit =>
      { status := exit.status, output := exit.output.toUTF8, errors := exit.errors }
    | .ok line =>
      outcome libraries (shows libraries surroundings.environment line)
        ((carryOut libraries surroundings ids timing line).run
          { world := { catalog, input := surroundings.input } })

end Invocation

end PassPipeline
