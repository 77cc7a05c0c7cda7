import PassPipeline.Environment
import PassPipeline.FileTree

/-!
# The surroundings of a program

A program finds an environment, the account of its user, a working directory, files and a
standard input.
-/

namespace PassPipeline

/-- What a program finds when it starts. -/
structure Surroundings where
  /-- The variables. -/
  environment : Environment := {}
  /-- The home directory of the user's account. -/
  accountHome : Option OsText := none
  /-- The names that lead from the root to the working directory. -/
  working : List OsText := []
  /-- What a path leads to. -/
  entry : OsText → Entry := fun _ => .missing
  /-- The bytes of the standard input. -/
  input : ByteArray := ByteArray.empty

namespace Surroundings

/-- The number of the account of a process, from the lines that describe the process. -/
def accountNumber? (description : String) : Option String :=
  (description.splitOn "\n").findSome? fun line =>
    match line.splitOn "\t" with
    | "Uid:" :: number :: _ => some number
    | _ => none

/-- The home directory of the account of that number, from the lines that list accounts. -/
def homeOf? (accounts number : String) : Option String :=
  (accounts.splitOn "\n").findSome? fun line =>
    match line.splitOn ":" with
    | _ :: _ :: found :: _ :: _ :: home :: _ => if found = number then some home else none
    | _ => none

end Surroundings

end PassPipeline
