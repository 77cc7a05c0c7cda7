import PassPipeline.Json
import PassPipeline.World

/-!
# Scripted passes

A scripted pass is given by what it declares and by the list of actions that its runs
carry out.  A run stops at the first action that fails.  What an action learns it
tells as a remark in the trace.
-/

namespace PassPipeline

/-- One action of a scripted pass. -/
inductive Action where
  | set (id : PassId) (value : Value)
  /-- Add to the end of a stored text, or to the empty text if there is none. -/
  | append (id : PassId) (text : String)
  /-- Read a value and tell the outcome. -/
  | get (id : PassId) (kind : Kind)
  /-- Read a value, and tell and fail if that is refused. -/
  | need (id : PassId) (kind : Kind)
  /-- Tell whether a value is stored. -/
  | has (id : PassId)
  | remove (id : PassId)
  /-- Tell which identities have a value. -/
  | ids
  /-- Write, and tell and fail if that is refused. -/
  | write (text : String)
  /-- Set or clear a selection flag, and tell if that is refused. -/
  | mark (id : PassId) (selected : Bool)
  | unregister (id : PassId)
  | fail
  /-- Fail in the run of that number, counted from one. -/
  | failOn (run : Nat)

/-- A scripted pass. -/
structure Script where
  declarations : List Declaration := []
  /-- What an instance made only for its declarations declares, if such instances are
  made in a way of their own. -/
  internalDeclarations : Option (List Declaration) := none
  actions : List Action := []
  /-- What the check after a run answers. -/
  verified : Bool := true
  /-- The number of changes that a run claims. -/
  changes : UInt64 := 0

/-- A value as data. -/
def Value.toJson : Value → Json
  | .text content => .text content
  | .texts content => .array (content.map .text)
  | .int64 content => .int content.toInt
  | .word64 content => .nat content.toNat
  | .word32 content => .nat content.toNat
  | .flag content => .bool content
  | .unit => .null
  | .stats content =>
    .array [.nat content.lines, .nat content.words, .nat content.chars, .nat content.distinct]

/-- The word for the cause of a refusal. -/
def PassError.kind : PassError → String
  | .io _ => "Io"
  | .alreadyManaged _ => "AlreadyManaged"
  | .alreadySelected _ => "AlreadySelected"
  | .duplicateName _ => "DuplicateName"
  | .duplicateArg _ => "DuplicateArg"
  | .unknownPass _ => "UnknownPass"
  | .unknownArg _ => "UnknownArg"
  | .resultMissing _ => "ResultMissing"
  | .resultTypeMismatch _ => "ResultTypeMismatch"
  | .cyclicDependency _ => "CyclicDependency"
  | .scheduleLimitExceeded _ => "ScheduleLimitExceeded"
  | .lockPoisoned _ => "LockPoisoned"

/-- A refusal as data: its cause and its wording. -/
def PassError.toJson (error : PassError) : Json :=
  .object [("error", .text error.kind), ("message", .text error.message)]

namespace Action

open Program (effect)

/-- Makes a remark that consists of a word and data. -/
def tell (word : String) (data : Json) : Program Unit :=
  effect (.note (word ++ " " ++ data.compact))

/-- The program of an action in the run of that number.  Its value says whether the
action succeeds. -/
def program (run : Nat) : Action → Program Bool
  | .set id value => do
    effect (.store id value)
    return true
  | .append id text => do
    match ← effect (.fetch id .text) with
    | .ok old => effect (.store id (.text (old ++ text)))
    | .error _ => effect (.store id (.text text))
    return true
  | .get id kind => do
    match ← effect (.fetch id kind) with
    | .ok content => tell "get" (.object [("ok", (Value.ofContent kind content).toJson)])
    | .error error => tell "get" error.toJson
    return true
  | .need id kind => do
    match ← effect (.fetch id kind) with
    | .ok _ => return true
    | .error error =>
      tell "need" error.toJson
      return false
  | .has id => do
    tell "has" (.bool (← effect (.holds id)))
    return true
  | .remove id => do
    tell "remove" (.bool (← effect (.discard id)))
    return true
  | .ids => do
    tell "ids" (.array ((← effect .stored).map fun id => .nat id.toNat))
    return true
  | .write text => do
    match ← effect (.write text) with
    | .ok () => return true
    | .error error =>
      tell "write" error.toJson
      return false
  | .mark id selected => do
    match ← effect (.mark id selected) with
    | .ok () => return true
    | .error error =>
      tell "select" error.toJson
      return true
  | .unregister id => do
    let _ ← effect (.withdraw id)
    return true
  | .fail => return false
  | .failOn number => return run != number

/-- The program of a list of actions, which ends with the first that fails. -/
def programs (run : Nat) : List Action → Program Bool
  | [] => return true
  | action :: rest => do
    if ← action.program run then programs run rest else return false

end Action

namespace Script

/-- A run of a scripted pass.  The pass type remembers how often it has run. -/
def program (script : Script) : Program Report := do
  let run := (← Program.effect .recall) + 1
  Program.effect (.remember run)
  let succeeded ← Action.programs run script.actions
  return { succeeded, verified := script.verified, changes := script.changes }

/-- The behaviour of a scripted pass. -/
def behaviour (script : Script) : Behaviour where
  declarations := script.declarations
  internalDeclarations := script.internalDeclarations
  run := script.program

end Script

end PassPipeline
