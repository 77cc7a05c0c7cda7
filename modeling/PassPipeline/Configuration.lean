import PassPipeline.Deserializer
import PassPipeline.Environment
import PassPipeline.Event
import PassPipeline.FileTree
import PassPipeline.Text.System

/-!
# The configuration file

A configuration names a pass to run when none is selected, passes that are selected on
every run, and the settings of the manager.  What the file leaves out is not there, or
not selected; the settings come from the environment if the file has none at all, and
from the built-in settings, one by one, if it has some of them.
-/

namespace PassPipeline

/-- What a configuration file says. -/
structure Configuration where
  /-- The argument of the pass that runs when none is selected. -/
  defaultPass : Option String := none
  /-- The arguments of the passes that are selected on every run. -/
  select : List String := []
  /-- The settings of the manager. -/
  manager : Settings := {}
  deriving DecidableEq, Repr, Inhabited

/-- The settings as a record of a document. -/
def Settings.fields (library : Deserializer) : Fields library.Item Settings :=
  .field limitKey library.natural ({} : Settings).scheduleLimit fun scheduleLimit =>
  .field recordKey library.truth ({} : Settings).recordMetrics fun recordMetrics =>
  .done { scheduleLimit, recordMetrics }

namespace Configuration

/-- The configuration as a record of a document. -/
def fields (library : Deserializer) (environment : Environment) :
    Fields library.Item Configuration :=
  .field "default_pass" (fun item => some <$> library.text item) none fun defaultPass =>
  .field "select" library.texts [] fun select =>
  .field "manager" (library.record (Settings.fields library)) (.ofEnvironment environment)
    fun manager =>
  .done { defaultPass, select, manager }

/-- The configuration that a text describes. -/
def parse (library : Deserializer) (environment : Environment) (text : String) :
    Except String Configuration := do
  library.record (fields library environment) (← library.document text)

/-- The configuration of those who have no file. -/
def ofEnvironment (environment : Environment) : Configuration where
  manager := Settings.ofEnvironment environment

/-! ## Files -/

/-- The reason that a configuration cannot be had. -/
inductive Failure where
  /-- There is no directory for it. -/
  | homeless
  /-- The file cannot be read. -/
  | unreadable (path : OsText) (reason : ReadFailure)
  /-- The file is not a configuration, for a reason that the library gives. -/
  | malformed (path : OsText) (reason : String)
  deriving DecidableEq

/-- The wording of a failure. -/
def Failure.message : Failure → String
  | .homeless => "could not determine user config directory"
  | .unreadable path _ => "failed to read config: " ++ Text.Utf8.lossy path
  | .malformed path _ => "failed to parse config: " ++ Text.Utf8.lossy path

/-- The wording of what lies behind a failure. -/
def Failure.causes : Failure → List String
  | .homeless => []
  | .unreadable _ reason => [reason.message]
  | .malformed _ reason => [reason]

/-- The path of the file that is used if none is named, in the directory of a user's
configurations. -/
def defaultPath (directory : OsText) : OsText :=
  Text.System.join (Text.System.join directory "libpass".toUTF8) "config.toml".toUTF8

/-- The path of the file: the one that is named, or else the default. -/
def path (directory : Option OsText) : Option String → Except Failure OsText
  | some path => .ok path.toUTF8
  | none =>
    match directory with
    | some directory => .ok (defaultPath directory)
    | none => .error .homeless

/-- The message that tells whether there is a file. -/
def announcement (path : OsText) (entry : Entry) : Message where
  level := .debug
  topic := .configuration
  text :=
    if entry.isPresent then "Loading config" else "Config file not found, using defaults"
  detail := some ("config_path", Text.System.quoted path)

/-- The configuration in the file at a path, where there need not be one. -/
def load (library : Deserializer) (environment : Environment) (path : OsText) (entry : Entry) :
    Except Failure Configuration :=
  if entry.isPresent then
    match entry.readText with
    | .error reason => .error (.unreadable path reason)
    | .ok text => (parse library environment text).mapError (.malformed path)
  else .ok (ofEnvironment environment)

end Configuration

end PassPipeline
