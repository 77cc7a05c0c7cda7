import PassPipeline.PassId

/-!
# What can go wrong

Every refusal of the catalogue, of a result table, of an output stream or of a
manager is one of the causes below.  The wording is fixed in one place,
`PassError.message`.
-/

namespace PassPipeline

/-- The causes for which an operation is refused. -/
inductive PassError where
  /-- A read or a write failed, for the reason that the system gives. -/
  | io (reason : String)
  /-- The pass of that name is under management already. -/
  | alreadyManaged (name : String)
  /-- The pass with that argument was met twice in one selection. -/
  | alreadySelected (arg : String)
  /-- A pass of that name is registered already. -/
  | duplicateName (name : String)
  /-- A pass with that argument is registered already. -/
  | duplicateArg (arg : String)
  /-- No pass has that identity. -/
  | unknownPass (id : PassId)
  /-- No pass has that argument. -/
  | unknownArg (arg : String)
  /-- No value is stored under that identity. -/
  | resultMissing (id : PassId)
  /-- The value stored under that identity is of another kind. -/
  | resultTypeMismatch (id : PassId)
  /-- The named passes depend on each other in a circle. -/
  | cyclicDependency (cycle : List String)
  /-- The schedule would need more slots than that. -/
  | scheduleLimitExceeded (limit : Nat)
  /-- The holder of a lock died while it held it. -/
  | lockPoisoned (holder : String)
  deriving DecidableEq, Repr

/-- The wording of a refusal. -/
def PassError.message : PassError → String
  | .io reason => "IO error: " ++ reason
  | .alreadyManaged name => "pass '" ++ name ++ "' already managed"
  | .alreadySelected arg => "already processed '" ++ arg ++ "'"
  | .duplicateName name => "pass name '" ++ name ++ "' already registered"
  | .duplicateArg arg => "pass argument '" ++ arg ++ "' already registered"
  | .unknownPass id => "unknown pass id " ++ id.display
  | .unknownArg arg => "unknown pass argument '" ++ arg ++ "'"
  | .resultMissing id => "no result present for pass id " ++ id.display
  | .resultTypeMismatch id =>
      "result for pass id " ++ id.display ++ " has an unexpected type"
  | .cyclicDependency cycle => "cyclic pass dependency: " ++ " -> ".intercalate cycle
  | .scheduleLimitExceeded limit => "schedule exceeded " ++ toString limit ++ " slots"
  | .lockPoisoned holder => "Lock poisoned: " ++ holder

/-- How an operation that runs foreign code can end early. -/
inductive Halt where
  /-- It was refused. -/
  | refused (error : PassError)
  /-- The foreign code died. -/
  | panicked
  deriving DecidableEq, Repr

end PassPipeline
