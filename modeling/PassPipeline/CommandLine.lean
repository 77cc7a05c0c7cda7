import PassPipeline.CommandLine.Argument

/-!
# The command line

The words of a command line are read by a library, which is told the arguments of the command
and can then be asked what was found of each (`Reader`).  What the command line says is put
together from the answers.
-/

namespace PassPipeline

/-- What a command line says. -/
structure CommandLine where
  /-- The path of the input file. -/
  input : Option OsText := none
  /-- The path of the configuration file. -/
  config : Option String := none
  /-- Are the metrics printed after the run? -/
  metrics : Bool := false
  /-- Are more messages written? -/
  verbose : Bool := false
  /-- The arguments of the selected passes, in the order of the catalogue. -/
  selected : List String := []
  deriving DecidableEq, Inhabited

namespace CommandLine

/-- What was found of the arguments, by their names. -/
structure Matches where
  /-- Is the flag there? -/
  flag : String → Bool := fun _ => false
  /-- The path that was given. -/
  path : String → Option OsText := fun _ => none
  /-- The text that was given. -/
  text : String → Option String := fun _ => none

namespace Matches

/-- The flag is there as well. -/
def setFlag (found : Matches) (name : String) : Matches :=
  { found with flag := fun other => other == name || found.flag other }

/-- The path was given as well. -/
def setPath (found : Matches) (name : String) (path : OsText) : Matches :=
  { found with path := fun other => if other = name then some path else found.path other }

/-- The text was given as well. -/
def setText (found : Matches) (name text : String) : Matches :=
  { found with text := fun other => if other = name then some text else found.text other }

end Matches

/-- A reader of command lines finds what the words say, or it gives another outcome. -/
abbrev Reader (ε : Type) := Command → List OsText → Except ε Matches

/-- What a command line says of which that was found. -/
def ofMatches (catalog : Catalog) (found : Matches) : CommandLine where
  input := found.path "input"
  config := found.text "config"
  metrics := found.flag "metrics"
  verbose := found.flag "verbose"
  selected := (catalog.descriptors.map (·.arg)).filter found.flag

/-- Reads a command line. -/
def parse {ε : Type} (read : Reader ε) (catalog : Catalog) (words : List OsText) :
    Except ε CommandLine :=
  (read (command catalog) words).map (ofMatches catalog)

end CommandLine

end PassPipeline
