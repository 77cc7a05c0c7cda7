import PassPipeline.CommandLine.Reader
import PassPipeline.Environment.Dotenv
import PassPipeline.Libraries
import PassPipeline.LogFilter
import PassPipeline.Toml.Deserializer

/-!
# The libraries at hand

A file of variables in the working directory, or in the next directory above that has one,
completes the environment.  The configurations of a user are in the home directory, unless the
environment names a directory for them.
-/

namespace PassPipeline

/-! ## Variables -/

namespace Surroundings

/-- The path of the directory to which names lead from the root. -/
def rooted (names : List OsText) : OsText := names.foldl Text.System.join "/".toUTF8

/-- The paths at which a file of variables may be: in the directory to which the names
lead, given in reverse, and in every directory above it. -/
def assignmentPathsFrom : List OsText → List OsText
  | [] => [Text.System.join (rooted []) ".env".toUTF8]
  | name :: above =>
    Text.System.join (rooted (name :: above).reverse) ".env".toUTF8 :: assignmentPathsFrom above

/-- The paths at which a file of variables may be, the nearest first. -/
def assignmentPaths (surroundings : Surroundings) : List OsText :=
  assignmentPathsFrom surroundings.working.reverse

/-- The bytes of a file. -/
def file? : Entry → Option ByteArray
  | .file bytes => some bytes
  | _ => none

/-- The environment, completed by the nearest file of variables. -/
def fullEnvironment (surroundings : Surroundings) : Environment :=
  match surroundings.assignmentPaths.findSome? fun path => file? (surroundings.entry path) with
  | some bytes => Dotenv.load surroundings.environment bytes
  | none => surroundings.environment

/-! ## Directories -/

/-- The home directory of the user: the one that the environment names, or else the one of
the account. -/
def home? (surroundings : Surroundings) : Option OsText :=
  (surroundings.environment.value? "HOME").filter (!·.isEmpty) <|> surroundings.accountHome

/-- The directory of a user's configurations, which is in the home directory unless the
environment names one from the root. -/
def directory? (surroundings : Surroundings) : Option OsText :=
  (surroundings.environment.value? "XDG_CONFIG_HOME").filter (·.data[0]? == some 0x2F) <|>
    surroundings.home?.map (Text.System.join · ".config".toUTF8)

end Surroundings

/-! ## Command lines -/

/-- How the program ends without carrying out a command line. -/
def CommandLine.Stop.exit (command : Command) : Stop → Exit
  | .help => { status := 0, output := command.helpText }
  | .misuse fault => { status := 2, errors := fault.report command }

/-! ## Failures -/

namespace Failure

/-- A text whose lines, but for the first, begin with so many blanks. -/
def indented (blanks : Nat) (text : String) : String :=
  ("\n" ++ String.ofList (List.replicate blanks ' ')).intercalate (text.splitOn "\n")

/-- The causes, numbered if there are several. -/
def listed : List String → List String
  | [cause] => ["    " ++ indented 4 cause]
  | causes => causes.zipIdx.map fun (cause, index) =>
    String.ofList (List.replicate (5 - (toString index).length) ' ') ++ toString index ++ ": " ++
      indented 7 cause

/-- A failure and its causes. -/
def described (message : String) (causes : List String) : String :=
  message ++
    if causes.isEmpty then "" else "\n\nCaused by:\n" ++ "\n".intercalate (listed causes)

end Failure

/-- The variable that names the filter of messages. -/
def LogFilter.variable : String := "RUST_LOG"

/-- The libraries at hand. -/
def Libraries.standard : Libraries where
  environment := Surroundings.fullEnvironment
  read command words := (CommandLine.read command words).mapError (·.exit command)
  namedFilter environment :=
    ((environment.get? LogFilter.variable).bind LogFilter.parse?).map LogFilter.shows
  filter description := ((LogFilter.parse? description).getD (.upTo .error)).shows
  directory := Surroundings.directory?
  deserializer := Toml.deserializer
  describe := Failure.described

end PassPipeline
