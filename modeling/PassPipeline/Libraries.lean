import PassPipeline.CommandLine
import PassPipeline.Deserializer
import PassPipeline.Event
import PassPipeline.Surroundings

/-!
# The libraries of the program

What the program leaves to libraries, as it makes use of them.  The program is the same whatever
the libraries are; it is carried out with some.
-/

namespace PassPipeline

/-- How a program ends whose command line is not carried out. -/
structure Exit where
  status : UInt8
  /-- What is written to the standard output. -/
  output : String := ""
  /-- What is written to the standard error stream. -/
  errors : String := ""
  deriving DecidableEq, Repr

/-- The libraries of the program. -/
structure Libraries where
  /-- The environment, completed by a file of variables. -/
  environment : Surroundings → Environment
  /-- Reads the words of a command line. -/
  read : CommandLine.Reader Exit
  /-- The messages that the environment asks for, if it does. -/
  namedFilter : Environment → Option (Message → Bool)
  /-- The messages that a description asks for. -/
  filter : String → Message → Bool
  /-- The directory of a user's configurations. -/
  directory : Surroundings → Option OsText
  /-- Reads configurations. -/
  deserializer : Deserializer
  /-- The description of a failure with what lies behind it, from the outside to the inside. -/
  describe : String → List String → String

/-- The surroundings with the environment completed. -/
def Libraries.complete (libraries : Libraries) (surroundings : Surroundings) : Surroundings :=
  { surroundings with environment := libraries.environment surroundings }

end PassPipeline
