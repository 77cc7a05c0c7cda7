import PassPipeline.Catalog
import PassPipeline.Text.System

/-!
# The arguments that a command line may hold

A command line may name an input file and a configuration file, ask for the metrics and
for more messages, and select passes; each pass of the catalogue contributes an argument.
-/

namespace PassPipeline.CommandLine

/-- What an argument takes. -/
inductive Argument.Kind where
  /-- Nothing: it is there or not. -/
  | flag
  /-- A path.  The value is shown under that name. -/
  | path (shown : String)
  /-- A text.  The value is shown under that name. -/
  | text (shown : String)
  deriving DecidableEq, Repr

/-- An argument that a command line may hold. -/
structure Argument where
  /-- The name by which it is asked for. -/
  name : String
  kind : Argument.Kind := .flag
  /-- The long form, if it has one. -/
  long : Option String := none
  /-- The short form, if it has one. -/
  short : Option Char := none
  /-- One line of help. -/
  description : String
  deriving DecidableEq, Repr

namespace Argument

/-- The input file, which stands by itself. -/
def input : Argument where
  name := "input"
  kind := .path "INPUT"
  description := "Input file (reads stdin when omitted)"

/-- The configuration file. -/
def config : Argument where
  name := "config"
  kind := .text "PATH"
  long := some "config"
  description := "Path to config file (default: ~/.config/libpass/config.toml)"

/-- The wish for the metrics. -/
def metrics : Argument where
  name := "metrics"
  long := some "metrics"
  description := "Print pass manager metrics as JSON after the run"

/-- The wish for more messages. -/
def verbose : Argument where
  name := "verbose"
  long := some "verbose"
  description := "Enable debug logging"

/-- The selection of a pass. -/
def ofPass (pass : Descriptor) : Argument where
  name := pass.arg
  long := some pass.arg
  short := pass.short
  description := pass.description

/-- An argument without a form stands by itself. -/
def isBare (argument : Argument) : Bool := argument.long.isNone && argument.short.isNone

end Argument

/-- A command, as the reader of its command lines knows it. -/
structure Command where
  name : String
  /-- What it does, in one line. -/
  about : String
  /-- The arguments, in order. -/
  arguments : List Argument
  deriving DecidableEq, Repr

/-- The command of a program with that catalogue. -/
def command (catalog : Catalog) : Command where
  name := "libpass"
  about := "Run passes of the libpass text pipeline"
  arguments := [.input, .config, .metrics, .verbose] ++ catalog.descriptors.map .ofPass

end PassPipeline.CommandLine
